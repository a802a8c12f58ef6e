namespace NodeScript

structure Clock where
  time : String
  stamp : String
  deriving DecidableEq, Repr, Inhabited

end NodeScript
