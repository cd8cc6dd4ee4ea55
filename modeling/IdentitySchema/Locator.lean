/-
  IdentitySchema/Locator.lean
  ===========================
  **Where an attribute stands.**  A locator is the chain of names from the id
  of a schema down to one attribute.  It only ever grows by producing a longer
  one, so the locators of two siblings never touch each other.
-/

namespace IdentitySchema

/-- A chain of names, outermost first. -/
structure Locator where
  segments : List String
  deriving DecidableEq

namespace Locator

def empty : Locator := ⟨[]⟩

def root (segment : String) : Locator := ⟨[segment]⟩

/-- The locator of something named `segment` right below. -/
def child (path : Locator) (segment : String) : Locator := ⟨path.segments ++ [segment]⟩

def last? (path : Locator) : Option String := path.segments.getLast?

def isEmpty (path : Locator) : Bool := path.segments.isEmpty

/-- Are the last names of the chain those of `suffix`? -/
def endsWith (path : Locator) (suffix : List String) : Bool := suffix.isSuffixOf path.segments

/-- The names with a slash between them. -/
def text (path : Locator) : String := "/".intercalate path.segments

@[simp] theorem segments_child (path : Locator) (segment : String) :
    (path.child segment).segments = path.segments ++ [segment] := rfl

@[simp] theorem last?_child (path : Locator) (segment : String) :
    (path.child segment).last? = some segment := by
  simp [child, last?]

end Locator

end IdentitySchema
