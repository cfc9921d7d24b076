import MediaGraph.Text.Search

/-!
# How ports are classified

A port has a direction, a kind of media read off its format, and an origin: a device or a program.
Kind and origin together are its category; a port without a recognised format has none.
-/

namespace MediaGraph

/-- Which way media flows through a port. -/
inductive Direction where
  | input
  | output
  deriving DecidableEq

inductive MediaKind where
  | audio
  | midi
  deriving DecidableEq

/-- Whether a port belongs to a device or to a program. -/
inductive Origin where
  | physical
  | software
  deriving DecidableEq

structure Category where
  origin : Origin
  kind : MediaKind
  deriving DecidableEq

namespace Direction

/-- Reads a direction property: only `out` is an output. -/
def ofProperty (value : String) : Direction := if value = "out" then output else input

def property : Direction → String
  | input => "in"
  | output => "out"

def name : Direction → String
  | input => "Input"
  | output => "Output"

def ofName? (text : String) : Option Direction :=
  if text = "Input" then some input else if text = "Output" then some output else none

@[simp]
theorem ofProperty_property (direction : Direction) :
    ofProperty direction.property = direction := by
  cases direction <;> rfl

end Direction

namespace MediaKind

/-- The kind that a format names anywhere in its text; audio comes first. -/
def ofFormat? (format : String) : Option MediaKind :=
  if Text.contains format "audio" then some audio
  else if Text.contains format "midi" then some midi
  else none

def name : MediaKind → String
  | audio => "Audio"
  | midi => "Midi"

def ofName? (text : String) : Option MediaKind :=
  if text = "Audio" then some audio else if text = "Midi" then some midi else none

end MediaKind

namespace Origin

def name : Origin → String
  | physical => "Physical"
  | software => "Software"

end Origin

namespace Category

/-- All categories, in the order in which they are walked. -/
def all : List Category :=
  [⟨.physical, .audio⟩, ⟨.physical, .midi⟩, ⟨.software, .audio⟩, ⟨.software, .midi⟩]

def rank : Category → Nat
  | ⟨.physical, .audio⟩ => 0
  | ⟨.physical, .midi⟩ => 1
  | ⟨.software, .audio⟩ => 2
  | ⟨.software, .midi⟩ => 3

def name (category : Category) : String := category.origin.name ++ category.kind.name

def ofName? (text : String) : Option Category := all.find? fun category => category.name = text

theorem rank_injective {left right : Category} (same : left.rank = right.rank) : left = right := by
  obtain ⟨leftOrigin, leftKind⟩ := left
  obtain ⟨rightOrigin, rightKind⟩ := right
  cases leftOrigin <;> cases leftKind <;> cases rightOrigin <;> cases rightKind <;> grind [rank]

theorem mem_all (category : Category) : category ∈ all := by
  obtain ⟨origin, kind⟩ := category
  cases origin <;> cases kind <;> decide

end Category

end MediaGraph
