import DebugBridge.Table

/-!
# Sources and the windows that show them

Every path gets a reference when it is first shown, and keeps it. At any time a window shows at
most one source, and a source is shown by at most one window: the one in which it was opened
last. What is looked up from both sides is kept in two tables, one for each side.
-/

namespace DebugBridge

/-- The paths that have a reference, and which window shows which of them. -/
structure Sources where
  /-- The reference that the next new path gets. -/
  next : Int
  referenceOf : Table String Int
  pathOf : Table Int String
  /-- The windows by the references of the sources in them. -/
  windowOf : Table Int Int64
  /-- The references of the sources by the windows that show them. -/
  shownBy : Table Int64 Int
  deriving Repr, DecidableEq

namespace Sources

/-- References count from one. -/
def empty : Sources := ⟨1, [], [], [], []⟩

/-- The paths in the order of their references. -/
def paths (s : Sources) : List String := s.pathOf.map Prod.snd

/-- The reference of a path. -/
def reference? (s : Sources) (path : String) : Option Int := s.referenceOf.get? path

/-- The path with a reference. -/
def path? (s : Sources) (reference : Int) : Option String := s.pathOf.get? reference

/-- The reference of the source that a window shows. -/
def shownBy? (s : Sources) (window : Int64) : Option Int := s.shownBy.get? window

/-- The window that shows the source with a reference. -/
def windowOf? (s : Sources) (reference : Int) : Option Int64 := s.windowOf.get? reference

/-- The window that shows the source with a path. -/
def windowOfPath? (s : Sources) (path : String) : Option Int64 :=
  (s.reference? path).bind s.windowOf?

/-- The reference of a path. A path without one gets the next. -/
def refer (s : Sources) (path : String) : Int × Sources :=
  match s.reference? path with
  | some reference => (reference, s)
  | none =>
    (s.next,
      { s with
        next := s.next + 1
        referenceOf := s.referenceOf.insert path s.next
        pathOf := s.pathOf.insert s.next path })

/-- The source that a window has shown is in no window any more, if it is another than the one
with this reference. -/
def vacate (s : Sources) (window : Int64) (reference : Int) : Sources :=
  match s.shownBy? window with
  | some previous =>
    if previous ≠ reference then { s with windowOf := s.windowOf.erase previous } else s
  | none => s

/-- The source is in this window, and in no other any more. -/
def occupy (s : Sources) (window : Int64) (reference : Int) : Sources :=
  let shownBy :=
    match s.windowOf? reference with
    | some old => if old ≠ window then s.shownBy.erase old else s.shownBy
    | none => s.shownBy
  { s with
    windowOf := s.windowOf.insert reference window
    shownBy := shownBy.insert window reference }

/-- A window shows a source from now on. Gives the reference of the source. -/
def bind (s : Sources) (window : Int64) (path : String) : Int × Sources :=
  let (reference, s) := s.refer path
  (reference, (s.vacate window reference).occupy window reference)

/-- A window no longer shows anything. -/
def unbind (s : Sources) (window : Int64) : Sources :=
  match s.shownBy? window with
  | none => s
  | some reference =>
    { s with
      shownBy := s.shownBy.erase window
      windowOf :=
        if s.windowOf? reference = some window then s.windowOf.erase reference else s.windowOf }

end Sources
end DebugBridge
