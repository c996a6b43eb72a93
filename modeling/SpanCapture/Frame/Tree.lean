import SpanCapture.Frame.Interval
import SpanCapture.Operation.Basic

/-! Frames: timed nodes of an execution tree, one operation each. A frame owns its
children; the link to its parent is the parent's number. In a well-formed tree children
stay inside the time of their parent and have greater numbers. -/
namespace SpanCapture

/-- A frame without its children. -/
structure FrameEntry where
  id : Nat
  parent : Option Nat
  span : Interval
  op : Operation
  deriving Repr

namespace FrameEntry

/-- The entry of a frame just entered, which has lasted no time yet. -/
def opened (id : Nat) (parent : Option Nat) (op : Operation) (start : Nat) : FrameEntry :=
  { id, parent, span := .opened start, op }

def isRoot (e : FrameEntry) : Bool := e.parent.isNone

/-- The entry with the time at which its frame was left. -/
def closed (finish : Nat) (e : FrameEntry) : FrameEntry :=
  { e with span := .between e.span.start finish }

@[simp] theorem id_closed (t : Nat) (e : FrameEntry) : (e.closed t).id = e.id := rfl

@[simp] theorem parent_closed (t : Nat) (e : FrameEntry) : (e.closed t).parent = e.parent := rfl

@[simp] theorem op_closed (t : Nat) (e : FrameEntry) : (e.closed t).op = e.op := rfl

end FrameEntry

/-- A frame with the frames entered while it was open. -/
inductive Frame where
  | node (entry : FrameEntry) (children : List Frame)
  deriving Repr

namespace Frame

def entry : Frame → FrameEntry
  | .node entry _ => entry

def children : Frame → List Frame
  | .node _ children => children

def id (frame : Frame) : Nat := frame.entry.id

mutual

/-- The frames of a tree in the order they were entered, each with its depth. -/
def walk (depth : Nat) : Frame → List (Nat × FrameEntry)
  | .node entry children => (depth, entry) :: walkAll (depth + 1) children

def walkAll (depth : Nat) : List Frame → List (Nat × FrameEntry)
  | [] => []
  | frame :: rest => walk depth frame ++ walkAll depth rest

end

def entries (frame : Frame) : List FrameEntry := (frame.walk 0).map Prod.snd

mutual

/-- How many frames there are in a tree. -/
def size : Frame → Nat
  | .node _ children => 1 + sizeAll children

def sizeAll : List Frame → Nat
  | [] => 0
  | frame :: rest => size frame + sizeAll rest

end

mutual

/-- The first frame of a number, in the order the frames were entered. -/
def find? (id : Nat) : Frame → Option Frame
  | .node entry children =>
    if entry.id = id then some (.node entry children) else findIn? id children

def findIn? (id : Nat) : List Frame → Option Frame
  | [] => none
  | frame :: rest => (find? id frame).or (findIn? id rest)

end

mutual

/-- Changes the operation of the first frame with a number; the flag tells whether there
is one. -/
def adjust (id : Nat) (f : Operation → Operation) : Frame → Frame × Bool
  | .node entry children =>
    if entry.id = id then (.node { entry with op := f entry.op } children, true)
    else
      let (children, found) := adjustIn id f children
      (.node entry children, found)

def adjustIn (id : Nat) (f : Operation → Operation) : List Frame → List Frame × Bool
  | [] => ([], false)
  | frame :: rest =>
    match adjust id f frame with
    | (frame, true) => (frame :: rest, true)
    | (frame, false) =>
      let (rest, found) := adjustIn id f rest
      (frame :: rest, found)

end

mutual

/-- Whether a failure is recorded in a frame or below it. -/
def containsException : Frame → Bool
  | .node entry children => entry.op.hasException || anyException children

def anyException : List Frame → Bool
  | [] => false
  | frame :: rest => containsException frame || anyException rest

end

mutual

/-- Whether the links, numbers and times below a frame fit together. -/
def wellFormed : Frame → Bool
  | .node entry children => childrenFit entry children

/-- Children are linked to their parent, have greater numbers, and lie within its time. -/
def childrenFit (parent : FrameEntry) : List Frame → Bool
  | [] => true
  | child :: rest =>
    (child.entry.parent == some parent.id && parent.id < child.entry.id &&
      parent.span.contains child.entry.span && wellFormed child) && childrenFit parent rest

end

/-- Takes the first tree with a number out of a row. -/
def detach (id : Nat) : List Frame → Option (Frame × List Frame)
  | [] => none
  | frame :: rest =>
    if frame.id = id then some (frame, rest)
    else (detach id rest).map fun (found, rest) => (found, frame :: rest)

mutual

/-- Takes a child with a number from the first frame with the number of its parent: the child, and
the tree without it. There is none if no frame has the number of the parent, or if the first that
has it does not have the child. -/
def prune? (parent id : Nat) : Frame → Option (Frame × Frame)
  | .node entry children =>
    if entry.id = parent then
      (detach id children).map fun (child, rest) => (child, .node entry rest)
    else (pruneIn? parent id children).map fun (child, rest) => (child, .node entry rest)

def pruneIn? (parent id : Nat) : List Frame → Option (Frame × List Frame)
  | [] => none
  | frame :: rest =>
    if (find? parent frame).isSome then
      (prune? parent id frame).map fun (child, frame) => (child, frame :: rest)
    else (pruneIn? parent id rest).map fun (child, rest) => (child, frame :: rest)

end

mutual

def written : Frame → Written
  | .node entry children =>
    let parent := entry.parent.toList.map fun (id : Nat) => ("parent", Json.print (.int id))
    Json.objectText <|
      [("id", Json.print (.int entry.id))] ++ parent ++
        [("is_root", Json.print (.bool entry.isRoot)), ("range", entry.span.written),
          ("operation", entry.op.written), ("children", Json.arrayText (writtenAll children))]

def writtenAll : List Frame → List Written
  | [] => []
  | frame :: rest => written frame :: writtenAll rest

end

@[simp] theorem entry_node (e : FrameEntry) (cs : List Frame) : (node e cs).entry = e := rfl

@[simp] theorem children_node (e : FrameEntry) (cs : List Frame) : (node e cs).children = cs := rfl

mutual

theorem length_walk (depth : Nat) : (frame : Frame) → (frame.walk depth).length = frame.size
  | .node _ children => by simp [walk, size, length_walkAll (depth + 1) children, Nat.add_comm]

theorem length_walkAll (depth : Nat) :
    (frames : List Frame) → (walkAll depth frames).length = sizeAll frames
  | [] => rfl
  | frame :: rest => by
    simp [walkAll, sizeAll, length_walk depth frame, length_walkAll depth rest]

end

theorem length_entries (frame : Frame) : frame.entries.length = frame.size := by
  simp [entries, length_walk]

end Frame
end SpanCapture
