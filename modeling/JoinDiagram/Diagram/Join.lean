namespace JoinDiagram

inductive LineStyle where
  | solid
  | dashed
deriving DecidableEq, Repr

def LineStyle.name : LineStyle → String
  | solid => "solid"
  | dashed => "dashed"

inductive JoinKind where
  | inner
  | left
  | right
  | full
  | cross
deriving DecidableEq, Repr

namespace JoinKind

def all : List JoinKind := [inner, left, right, full, cross]

def name : JoinKind → String
  | inner => "INNER"
  | left => "LEFT"
  | right => "RIGHT"
  | full => "FULL"
  | cross => "CROSS"

def color : JoinKind → String
  | inner => "#21808d"
  | left => "#a84b2f"
  | right => "#6b21a8"
  | full => "#c0152f"
  | cross => "#626c71"

def lineStyle : JoinKind → LineStyle
  | cross => .dashed
  | _ => .solid

def arrow : JoinKind → String
  | inner | left => "→"
  | right => "←"
  | full => "↔"
  | cross => "—"

def isBidirectional (k : JoinKind) : Bool := k == full

def hasCondition (k : JoinKind) : Bool := k != cross

end JoinKind

structure Edge where
  source : String
  target : String
  kind : JoinKind
  condition : String
  columns : List String
deriving DecidableEq, Repr

namespace Edge

def touches (e : Edge) (id : String) : Bool := e.source == id || e.target == id

/-- The columns follow from the condition and take no part in equality. -/
def same (e f : Edge) : Bool :=
  e.source == f.source && e.target == f.target && e.kind == f.kind && e.condition == f.condition

instance : BEq Edge := ⟨same⟩

end Edge

end JoinDiagram
