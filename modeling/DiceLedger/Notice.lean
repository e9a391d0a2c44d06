/-! # Notices

Lines about what the program is doing or passing over, for whoever keeps its log. They
are values like any other answer; `Notice.line` is the form in which one is written.
-/

namespace DiceLedger

/-- How much a notice matters. -/
inductive NoticeLevel where
  | debug
  | info
  deriving DecidableEq, Repr

namespace NoticeLevel

/-- The rank of a level among all levels that a log can be set to. -/
def rank : NoticeLevel → Nat
  | debug => 10
  | info => 20

def name : NoticeLevel → String
  | debug => "DEBUG"
  | info => "INFO"

end NoticeLevel

/-- A notice from one part of the program. -/
structure Notice where
  level : NoticeLevel
  part : String
  text : String
  deriving DecidableEq, Repr

def Notice.line (notice : Notice) : String :=
  notice.level.name ++ " " ++ notice.part ++ ": " ++ notice.text

end DiceLedger
