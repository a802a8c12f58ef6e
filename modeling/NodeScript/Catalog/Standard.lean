import NodeScript.Catalog

namespace NodeScript

namespace Standard

def port (name : Text) (type : PortType) : Port := { name, type }

def exec : Port := port "exec" .flow

def next : Port := { name := "next", type := .flow, loopBack := true }

def template (type : Text) (category : Category) (context : Context) (label description : Text) :
    Template :=
  { type, category, context, label, description }

def constants : List Template :=
  [{ template "const_string" .constants .host "String" "Constant string value" with
     outputs := [port "value" .string]
     parameters := [("value", .str "")] },
   { template "const_number" .constants .host "Number" "Constant number value" with
     outputs := [port "value" .number]
     parameters := [("value", .int 0)] },
   { template "const_boolean" .constants .host "Boolean" "Constant boolean value" with
     outputs := [port "value" .boolean]
     parameters := [("value", .bool false)] },
   { template "const_pointer" .constants .host "Pointer" "Constant address" with
     outputs := [port "value" .pointer]
     parameters := [("value", .str "0x0")] }]

def events : List Template :=
  [{ template "event_ui" .events .host "UI Event" "Fires when a UI component changes" with
     outputs := [exec, port "value" .any, port "componentId" .string]
     parameters := [("componentId", .str "")] },
   { template "event_attach" .events .host "On Attach" "Fires after attaching to the target process" with
     outputs := [exec, port "pid" .number] },
   { template "event_detach" .events .host "On Detach" "Fires after detaching from the target process" with
     outputs := [exec] },
   { template "event_hotkey" .events .host "Hotkey" "Fires when a hotkey is pressed" with
     outputs := [exec]
     parameters := [("hotkey", .str "")] },
   { template "event_interval" .events .host "Interval" "Fires periodically" with
     outputs := [exec, port "tick" .number]
     parameters := [("intervalMs", .int 1000)] },
   { template "event_hook" .events .target "Hook Event" "Fires inside the target when a hooked function is entered" with
     outputs := [exec, port "args" .pointer, port "retval" .any]
     parameters := [("address", .str "0x0")] }]

def flow : List Template :=
  [{ template "if" .flow .host "If" "Conditional branch" with
     inputs := [exec, port "condition" .boolean]
     outputs := [port "true" .flow, port "false" .flow]
     parameters := [("condition", .bool false)] },
   { template "switch" .flow .host "Switch" "Branch on a value" with
     inputs := [exec, port "value" .any]
     outputs := [port "case0" .flow, port "case1" .flow, port "default" .flow]
     parameters := [("cases", .arr [])] },
   { template "for_each" .flow .host "For Each" "Iterate over the elements of an array" with
     inputs := [exec, port "array" .any, next]
     outputs := [port "body" .flow, port "done" .flow, port "element" .any, port "index" .number]
     parameters := [("maxIterations", .int 10000)]
     loop := true },
   { template "for_range" .flow .host "For Range" "Iterate over a numeric range" with
     inputs := [exec, port "start" .number, port "end" .number, port "step" .number, next]
     outputs := [port "body" .flow, port "done" .flow, port "index" .number]
     parameters := [("start", .int 0), ("end", .int 10), ("step", .int 1), ("maxIterations", .int 10000)]
     loop := true },
   { template "loop" .flow .host "Loop" "Repeat execution while condition is true" with
     inputs := [exec, port "condition" .boolean, next]
     outputs := [port "body" .flow, port "done" .flow, port "index" .number]
     parameters := [("maxIterations", .int 1000)]
     loop := true },
   { template "break" .flow .host "Break" "Leave the innermost loop" with
     inputs := [exec] },
   { template "continue" .flow .host "Continue" "Skip to the next iteration" with
     inputs := [exec] },
   { template "delay" .flow .host "Delay" "Wait for specified milliseconds" with
     inputs := [exec, port "ms" .number]
     outputs := [exec]
     parameters := [("ms", .int 100)] }]

def memory : List Template :=
  [{ template "memory_scan" .memory .target "Memory Scan" "Scan memory for value/pattern" with
     inputs := [exec, port "value" .any, port "pattern" .string]
     outputs := [exec, port "results" .pointer, port "count" .number]
     parameters := [("scanType", .str "value"), ("protection", .str "rw-")] },
   { template "memory_read" .memory .target "Read Memory" "Read value from memory address" with
     inputs := [exec, port "address" .pointer]
     outputs := [exec, port "value" .any]
     parameters := [("valueType", .str "int32")] },
   { template "memory_write" .memory .target "Write Memory" "Write value to memory address" with
     inputs := [exec, port "address" .pointer, port "value" .any]
     outputs := [exec]
     parameters := [("valueType", .str "int32")] },
   { template "memory_freeze" .memory .target "Freeze Memory" "Continuously write value to freeze it" with
     inputs := [exec, port "address" .pointer, port "value" .any, port "enabled" .boolean]
     outputs := [exec]
     parameters := [("valueType", .str "int32"), ("intervalMs", .int 100), ("enabled", .bool true)] },
   { template "memory_alloc" .memory .target "Allocate Memory" "Allocate a block in the target" with
     inputs := [exec, port "size" .number]
     outputs := [exec, port "address" .pointer]
     parameters := [("size", .int 4096)] },
   { template "memory_protect" .memory .target "Protect Memory" "Change page protection" with
     inputs := [exec, port "address" .pointer, port "size" .number]
     outputs := [exec, port "ok" .boolean]
     parameters := [("protection", .str "rwx")] }]

def pointers : List Template :=
  [{ template "pointer_add" .pointers .target "Pointer Add" "Offset an address" with
     inputs := [port "base" .pointer, port "offset" .number]
     outputs := [port "result" .pointer]
     parameters := [("offset", .int 0)] },
   { template "pointer_read" .pointers .target "Read Pointer" "Dereference a pointer chain" with
     inputs := [exec, port "address" .pointer]
     outputs := [exec, port "value" .pointer]
     parameters := [("offsets", .arr [])] },
   { template "pointer_write" .pointers .target "Write Pointer" "Store an address at a pointer" with
     inputs := [exec, port "address" .pointer, port "value" .pointer]
     outputs := [exec] }]

def modules : List Template :=
  [{ template "get_module" .modules .target "Get Module" "Get module info by name" with
     inputs := [exec, port "name" .string]
     outputs := [exec, port "base" .pointer, port "size" .number]
     parameters := [("name", .str "")] },
   { template "find_symbol" .modules .target "Find Symbol" "Find exported symbol in module" with
     inputs := [exec, port "module" .string, port "symbol" .string]
     outputs := [exec, port "address" .pointer]
     parameters := [("module", .str ""), ("symbol", .str "")] },
   { template "get_base_address" .modules .target "Get Base Address" "Get module base address" with
     inputs := [exec, port "moduleName" .string]
     outputs := [exec, port "address" .pointer]
     parameters := [("moduleName", .str "")] },
   { template "enumerate_modules" .modules .target "Enumerate Modules" "List loaded modules" with
     inputs := [exec]
     outputs := [exec, port "modules" .any] },
   { template "enumerate_exports" .modules .target "Enumerate Exports" "List exports of a module" with
     inputs := [exec, port "module" .string]
     outputs := [exec, port "exports" .any]
     parameters := [("module", .str "")] }]

def vars : List Template :=
  [{ template "declare_variable" .vars .host "Declare Variable" "Declare a script variable" with
     inputs := [exec, port "initial" .any]
     outputs := [exec]
     parameters := [("variableId", .str ""), ("initial", .null)] },
   { template "set_variable" .vars .host "Set Variable" "Store a value in a variable" with
     inputs := [exec, port "value" .any]
     outputs := [exec]
     parameters := [("variableId", .str "")] },
   { template "get_variable" .vars .host "Get Variable" "Retrieve a value from a variable" with
     outputs := [port "value" .any]
     parameters := [("variableId", .str "")] }]

def arrays : List Template :=
  [{ template "array_create" .arrays .host "Create Array" "Create an empty array" with
     outputs := [port "array" .any] },
   { template "array_get" .arrays .host "Array Get" "Read an element by index" with
     inputs := [port "array" .any, port "index" .number]
     outputs := [port "element" .any]
     parameters := [("index", .int 0)] },
   { template "array_push" .arrays .host "Array Push" "Append an element" with
     inputs := [exec, port "array" .any, port "element" .any]
     outputs := [exec, port "array" .any] },
   { template "array_length" .arrays .host "Array Length" "Number of elements" with
     inputs := [port "array" .any]
     outputs := [port "length" .number] }]

def objects : List Template :=
  [{ template "object_get" .objects .host "Object Get" "Read a property" with
     inputs := [port "object" .any, port "key" .string]
     outputs := [port "value" .any]
     parameters := [("key", .str "")] },
   { template "object_set" .objects .host "Object Set" "Write a property" with
     inputs := [exec, port "object" .any, port "key" .string, port "value" .any]
     outputs := [exec, port "object" .any]
     parameters := [("key", .str "")] },
   { template "object_keys" .objects .host "Object Keys" "List property names" with
     inputs := [port "object" .any]
     outputs := [port "keys" .any] }]

def math : List Template :=
  [{ template "math" .math .host "Math" "Perform math operation" with
     inputs := [port "a" .number, port "b" .number]
     outputs := [port "result" .number]
     parameters := [("operation", .str "add"), ("a", .int 0), ("b", .int 0)] },
   { template "compare" .math .host "Compare" "Compare two values" with
     inputs := [port "a" .any, port "b" .any]
     outputs := [port "result" .boolean]
     parameters := [("operation", .str "equals")] },
   { template "logic" .math .host "Logic" "Logic operation (and, or, not)" with
     inputs := [port "a" .boolean, port "b" .boolean]
     outputs := [port "result" .boolean]
     parameters := [("operation", .str "and"), ("a", .bool false), ("b", .bool false)] }]

def strings : List Template :=
  [{ template "string_format" .strings .host "Format String" "Substitute values into a template" with
     inputs := [port "template" .string, port "value" .any]
     outputs := [port "result" .string]
     parameters := [("template", .str "\x7b0\x7d")] },
   { template "string_concat" .strings .host "Concat" "Join two strings" with
     inputs := [port "a" .string, port "b" .string]
     outputs := [port "result" .string]
     parameters := [("a", .str ""), ("b", .str "")] }]

def conversion : List Template :=
  [{ template "to_string" .conversion .host "To String" "Convert a value to text" with
     inputs := [port "value" .any]
     outputs := [port "result" .string] },
   { template "parse_int" .conversion .host "Parse Int" "Parse an integer from text" with
     inputs := [port "text" .string]
     outputs := [port "result" .number]
     parameters := [("radix", .int 10)] },
   { template "parse_float" .conversion .host "Parse Float" "Parse a float from text" with
     inputs := [port "text" .string]
     outputs := [port "result" .number] },
   { template "to_pointer" .conversion .host "To Pointer" "Interpret a number as address" with
     inputs := [port "value" .number]
     outputs := [port "result" .pointer] },
   { template "bytes_to_hex" .conversion .host "Bytes To Hex" "Hex-encode raw bytes" with
     inputs := [port "data" .bytes]
     outputs := [port "result" .string] }]

def nativeCode : List Template :=
  [{ template "call_native" .native .target "Call Native" "Call a native function" with
     inputs := [exec, port "address" .pointer, port "arg0" .any, port "arg1" .any, port "arg2" .any, port "arg3" .any]
     outputs := [exec, port "return" .any]
     parameters := [("returnType", .str "void"), ("argTypes", .arr [])] },
   { template "native_callback" .native .target "Native Callback" "Expose a callback pointer to native code" with
     inputs := [exec]
     outputs := [exec, port "pointer" .pointer]
     parameters := [("returnType", .str "void"), ("argTypes", .arr [])] }]

def interceptors : List Template :=
  [{ template "interceptor_attach" .interceptors .target "Attach Interceptor" "Hook a function at address" with
     inputs := [exec, port "address" .pointer]
     outputs := [exec, port "onEnter" .flow, port "onLeave" .flow, port "listener" .any]
     parameters := [("onEnter", .bool true), ("onLeave", .bool true)] },
   { template "interceptor_replace" .interceptors .target "Replace Function" "Replace a function implementation" with
     inputs := [exec, port "address" .pointer, port "replacement" .pointer]
     outputs := [exec] },
   { template "interceptor_detach" .interceptors .target "Detach Interceptor" "Remove a hook" with
     inputs := [exec, port "listener" .any]
     outputs := [exec] },
   { template "read_arg" .interceptors .target "Read Argument" "Read a hooked function argument" with
     inputs := [port "index" .number]
     outputs := [port "value" .pointer]
     parameters := [("index", .int 0)] },
   { template "write_arg" .interceptors .target "Write Argument" "Overwrite a hooked function argument" with
     inputs := [exec, port "index" .number, port "value" .pointer]
     outputs := [exec]
     parameters := [("index", .int 0)] },
   { template "read_retval" .interceptors .target "Read Return Value" "Read the hooked return value" with
     outputs := [port "value" .pointer] },
   { template "replace_retval" .interceptors .target "Replace Return Value" "Overwrite the hooked return value" with
     inputs := [exec, port "value" .pointer]
     outputs := [exec] }]

def output : List Template :=
  [{ template "log" .output .host "Log" "Log message to console" with
     inputs := [exec, port "message" .string]
     outputs := [exec]
     parameters := [("message", .str "")] },
   { template "notify" .output .host "Notify" "Show notification to user" with
     inputs := [exec, port "title" .string, port "message" .string]
     outputs := [exec]
     parameters := [("title", .str ""), ("message", .str ""), ("level", .str "info")] }]

def functions : List Template :=
  [{ template "function_define" .functions .host "Define Function" "Start of a reusable function body" with
     outputs := [exec, port "args" .any]
     parameters := [("name", .str "")] },
   { template "function_call" .functions .host "Call Function" "Invoke a defined function" with
     inputs := [exec, port "args" .any]
     outputs := [exec, port "result" .any]
     parameters := [("name", .str "")] },
   { template "function_return" .functions .host "Return" "Return a value from a function" with
     inputs := [exec, port "value" .any] },
   { template "rpc_bridge" .functions .host "RPC Bridge" "Marshal values and control across the host/target boundary" with
     inputs := [exec, port "args" .any]
     outputs := [exec, port "result" .any]
     parameters := [("method", .str "")]
     icon := "⇄"
     bridge := true }]

def templates : List Template :=
  constants ++ events ++ flow ++ memory ++ pointers ++ modules ++ vars ++ arrays ++
    objects ++ math ++ strings ++ conversion ++ nativeCode ++ interceptors ++ output ++ functions

end Standard

def Catalog.standard : Catalog := ⟨Standard.templates, by decide +kernel⟩

/-- An empty catalog stands for the standard one. -/
def Catalog.orStandard (c : Catalog) : Catalog := if c.templates = [] then .standard else c

end NodeScript
