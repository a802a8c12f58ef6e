import NodeScript.Proofs.Http.Handler

/-!
Runs of the service. Whatever requests came before, the handler of a request whose body is taken ends
with a result or with an error that is told under one of three statuses. The one exception is a
connection that is begun without a node: the error that no such node is there cannot be told.
-/
namespace NodeScript.Http

open Record

/-- The status of a result or of an error that is told, none if an error leaves the handler. -/
def Ending.status? : Ending → Option Nat
  | .result _ => some 200
  | .refused d => some (Reply.refused d).status
  | .rejected detail => some (Reply.rejected detail).status
  | .escaped _ => none

theorem Ending.status?_of_told {ending : Ending} (told : ∀ escape, ending ≠ .escaped escape) :
    ∃ status ∈ [200, 400, 404, 409], ending.status? = some status := by
  cases ending with
  | result json => exact ⟨200, by decide, rfl⟩
  | refused d =>
      by_cases unknown : Reply.isUnknown d.kind = true
      · exact ⟨404, by decide, by simp [status?, Reply.status, unknown]⟩
      · exact ⟨409, by decide, by simp [status?, Reply.status, unknown]⟩
  | rejected detail => exact ⟨400, by decide, rfl⟩
  | escaped escape => exact absurd rfl (told escape)

/-- What is sent has the status of the ending, unless the result has a number that is not finite or a
text that cannot be encoded. -/
theorem Ending.reply_status {ending : Ending} {status : Nat} (told : ending.status? = some status)
    (finite : ∀ json, ending = .result json → json.shared.finite = true)
    (encodable : ending.reply.body.encodable = true) : ending.reply.encoded.status = status := by
  rw [Reply.encoded, if_pos encodable]
  cases ending with
  | result json =>
      cases told
      rw [reply, if_pos (finite json rfl)]
      rfl
  | refused d | rejected detail =>
      cases told
      rfl
  | escaped escape => cases told

/-- How the handler of a request ends that works on a workspace. -/
structure Concluded (c : Catalog) (w : Workspace) (endpoint : Endpoint) (body : String) (h : Handled) :
    Prop where
  nowhere : BeginsNowhere w endpoint body → h.1 = .escaped (.notTold [⟨["node_ids", "0"], .notText⟩])
  status : ¬BeginsNowhere w endpoint body → fault? c.templates = none → fault? h.2.2.project = none →
    ∃ status ∈ [200, 400, 404, 409], h.1.status? = some status
  unwritten : ¬BeginsNowhere w endpoint body → ∀ escape, h.1 = .escaped escape →
    ∃ fault, escape = .notWritten fault

namespace Service

variable {c : Catalog} {s : Service}

def run (c : Catalog) (s : Service) (requests : List (Clock × Request)) : Service :=
  requests.foldl (fun s r => (s.answer c r.1 r.2).2.2) s

theorem answer_bound {clock : Clock} {r : Request} {endpoint : Endpoint} {handle : Handler}
    (found : routing r.method r.path = .found endpoint) (bound : handler c clock r.body endpoint = .ok handle) :
    s.answer c clock r = ((handle s.workspace).1.reply.encoded, (handle s.workspace).2.1,
      { workspace := (handle s.workspace).2.2, shouldExit := s.shouldExit || decide (endpoint = .shutdown) }) := by
  simp [answer, found, bound]

theorem answer_offers (clock : Clock) (r : Request) (each : s.workspace.Each (Editor.Offers c)) :
    (s.answer c clock r).2.2.workspace.Each (Editor.Offers c) := by
  cases routed : routing r.method r.path with
  | found endpoint =>
      cases bound : handler c clock r.body endpoint with
      | error reply => simpa [answer, routed, bound] using each
      | ok handle =>
          rw [answer_bound routed bound]
          by_cases nowhere : BeginsNowhere s.workspace endpoint r.body
          · exact (beginConnection_nowhere bound nowhere each).2
          · exact (handler_served bound each nowhere).offers
  | _ => simpa [answer, routed] using each

theorem run_offers (requests : List (Clock × Request)) (each : s.workspace.Each (Editor.Offers c)) :
    (s.run c requests).workspace.Each (Editor.Offers c) := by
  induction requests generalizing s with
  | nil => exact each
  | cons r rest ih => exact ih (answer_offers r.1 r.2 each)

/-- Wherever the requests have led from a workspace without editors, a request whose body is taken is
concluded. -/
theorem run_concluded (c : Catalog) (w : Workspace) (fresh : w.editors = [])
    (requests : List (Clock × Request)) (clock : Clock) (endpoint : Endpoint) (body : String)
    (handle : Handler) (bound : handler c clock body endpoint = .ok handle) :
    Concluded c (run c { workspace := w } requests).workspace endpoint body
      (handle (run c { workspace := w } requests).workspace) := by
  have each : (run c { workspace := w } requests).workspace.Each (Editor.Offers c) :=
    run_offers requests (Workspace.each_of_noEditors fresh)
  refine ⟨fun nowhere => (beginConnection_nowhere bound nowhere each).1, ?_, ?_⟩
  · intro somewhere templates left
    refine Ending.status?_of_told fun escape escaped => ?_
    have unwritten := ((handler_served bound each somewhere).answers escape escaped).2
    exact unwritten (fault?_eq_none.mp templates) (fault?_eq_none.mp left)
  · intro somewhere escape escaped
    exact ((handler_served bound each somewhere).answers escape escaped).1

theorem taken_eq {α : Type} {take : Option Json → Except (List Fault) α} {body : String} {letters : Text}
    {value : Json} (used : body ≠ "") (decoded : decoded? body = some letters)
    (read : Json.read letters = .ok value) :
    taken take body = (take (some value)).mapError (invalidReply (some value)) := by
  simp only [taken, bodyValue, if_neg used, decoded, read, Option.map_some]

def createRequest : Request := { path := "/scripts/create", body := "\x7b\"name\": \"Main\"\x7d" }

def mainService : Service := run Workspace.traceCatalog {} [(default, createRequest)]

theorem mainService_eq : mainService = { workspace := (({} : Workspace).createScript "Main" none).workspace } := by
  have found : routing createRequest.method createRequest.path = .found .createScript := rfl
  have value : Json.read (createRequest.body : Text) = .ok (.obj [("name", .str "Main")]) := by decide +kernel
  have read : taken (required ScriptRequest.read) createRequest.body =
      .ok { name := "Main", description := none } :=
    taken_eq (by decide) (by decide +kernel) value
  have bound : handler Workspace.traceCatalog default createRequest.body .createScript =
      .ok fun w => ended .uncaught (part "script") (w.createScript "Main" none) := by
    simp only [handler, withBody, read]
    rfl
  change (answer Workspace.traceCatalog default createRequest {}).2.2 = _
  rw [answer_bound found bound]
  rfl

theorem read_empty : taken (required PortRequest.read) "\x7b\x7d" = .ok { node := none, port := none } := by
  have value : Json.read ("\x7b\x7d" : Text) = .ok (.obj []) := by decide +kernel
  exact taken_eq (by decide) (by decide +kernel) value

def unknownBody : String := "\x7b\"node_id\": \"id-9\", \"port\": \"exec\"\x7d"

theorem read_unknown :
    taken (required PortRequest.read) unknownBody = .ok { node := some "id-9", port := some "exec" } := by
  have value : Json.read (unknownBody : Text) = .ok (.obj [("node_id", .str "id-9"), ("port", .str "exec")]) := by
    decide +kernel
  exact taken_eq (by decide) (by decide +kernel) value

theorem run_concluded_unknown :
    ({} : Workspace).editors = [] ∧
      ∃ handle, handler Workspace.traceCatalog default unknownBody (.editor .beginConnection "id-1") =
          .ok handle ∧
        ¬BeginsNowhere mainService.workspace (.editor .beginConnection "id-1") unknownBody ∧
        fault? Workspace.traceCatalog.templates = none ∧
        fault? (handle mainService.workspace).2.2.project = none ∧
        (handle mainService.workspace).1.status? = some 404 ∧
        Concluded Workspace.traceCatalog mainService.workspace (.editor .beginConnection "id-1")
          unknownBody (handle mainService.workspace) := by
  have bound : handler Workspace.traceCatalog default unknownBody (.editor .beginConnection "id-1") =
      .ok fun w => handled (part "state")
        (w.beginConnection Workspace.traceCatalog (some "id-1") (some "id-9") (some "exec")) := by
    simp only [handler, editorAction, withBody, read_unknown]
    rfl
  refine ⟨rfl, _, bound, ?_, by decide +kernel, ?_, ?_, ?_⟩
  · rintro ⟨_, _, port, ⟨⟩, _, nobody⟩
    cases read_unknown.symm.trans nobody
  · rw [mainService_eq]
    decide +kernel
  · rw [mainService_eq]
    decide +kernel
  · exact run_concluded Workspace.traceCatalog {} rfl [(default, createRequest)] default _ unknownBody _ bound

def nowhereRequest : Request := { path := "/scripts/id-1/editor/begin_connection", body := "\x7b\x7d" }

/-- The body is taken, an error leaves the handler, and the reply is broken. -/
theorem run_begins_nowhere :
    ∃ handle, handler Workspace.traceCatalog default nowhereRequest.body (.editor .beginConnection "id-1") =
        .ok handle ∧
      (handle mainService.workspace).1.status? = none ∧
      (mainService.answer Workspace.traceCatalog default nowhereRequest).1 = .broken .invalidRecord := by
  have found : routing nowhereRequest.method nowhereRequest.path = .found (.editor .beginConnection "id-1") :=
    rfl
  have bound : handler Workspace.traceCatalog default nowhereRequest.body
      (.editor .beginConnection "id-1") = .ok fun w => handled (part "state")
        (w.beginConnection Workspace.traceCatalog (some "id-1") none none) := by
    simp only [handler, editorAction, withBody, nowhereRequest, read_empty]
    rfl
  have left : ∃ s, mainService.workspace.script (some "id-1") = .ok s := by
    rw [mainService_eq]
    exact ⟨_, rfl⟩
  obtain ⟨s, there⟩ := left
  have each : mainService.workspace.Each (Editor.Offers Workspace.traceCatalog) :=
    run_offers _ (Workspace.each_of_noEditors rfl)
  have escaped := (beginConnection_nowhere bound ⟨"id-1", s, none, rfl, there, read_empty⟩ each).1
  refine ⟨_, bound, ?_, ?_⟩
  · rw [escaped]
    rfl
  · rw [answer_bound found bound, escaped]
    rfl

end Service

end NodeScript.Http
