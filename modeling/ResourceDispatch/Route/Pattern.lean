import ResourceDispatch.Http.Fields
import ResourceDispatch.Route.Template
import ResourceDispatch.Text.Split

/-! Compiled routes. A route is matched segment by segment: a segment is literal text,
behind which a parameter may take all that is left of the segment, or, in the last segment,
of the path. -/

namespace ResourceDispatch.Route

open Http (Fields)

inductive Capture where
  | segment (name : List Char)
  | rest (name : List Char)
deriving DecidableEq, Repr

/-- A segment of a route: literal text, and perhaps a parameter behind it. -/
structure Segment where
  literal : List Char
  capture : Option Capture
deriving DecidableEq, Repr

inductive Fault where
  | twoParameters
  | unnamed
  | misplacedRest
deriving DecidableEq, Repr

namespace Fault

def message : Fault → String
  | twoParameters => "only one parameter is allowed per path segment"
  | unnamed => "parameters must be registered with a name"
  | misplacedRest => "catch-all parameters are only allowed at the end of a route"

end Fault

def isSigil (c : Char) : Bool :=
  c == ':' || c == '*'

namespace Segment

/-- Reads a segment: everything from the first sigil on is a parameter. -/
def ofChars (text : List Char) : Except Fault Segment :=
  let literal := text.takeWhile fun c => !isSigil c
  match text.dropWhile fun c => !isSigil c with
  | [] => .ok ⟨literal, none⟩
  | sigil :: name =>
    if name.any isSigil then .error .twoParameters
    else if name.isEmpty then .error .unnamed
    else .ok ⟨literal, some (if sigil = '*' then .rest name else .segment name)⟩

def takesRest (s : Segment) : Bool :=
  match s.capture with
  | some (.rest _) => true
  | _ => false

def takesSegment (s : Segment) : Bool :=
  match s.capture with
  | some (.segment _) => true
  | _ => false

/-- What a segment of a path binds, if it matches; a parameter may take nothing. -/
def bind? (s : Segment) (text : List Char) : Option Fields :=
  match s.capture with
  | none => if text = s.literal then some [] else none
  | some (.segment name) | some (.rest name) =>
    (Text.strip? s.literal text).map fun value =>
      [(String.ofList name, String.ofList value)]

/-- What the last segment of a path binds. If its parameter has to take something, it does
not match the literal text alone. -/
def bindLast? (s : Segment) (needsValue : Bool) (text : List Char) : Option Fields :=
  if needsValue && s.takesSegment && text == s.literal then none else s.bind? text

end Segment

/-- The outcome of compiling a route: so many parameters that there is no compiling it at
all, a fault, or its segments. -/
inductive Compiled where
  | tooManyParameters
  | faulty (fault : Fault)
  | segments (segments : List Segment)
deriving DecidableEq, Repr

/-- The number of parameters for single segments from which on a route is refused
outright. -/
def parameterLimit : Nat := 26

/-- Reads the segments of a route in order. The first fault decides, unless the limit of
parameters is reached before it; `seen` counts those already read. -/
def readSegments (seen : Nat) : List (List Char) → Compiled
  | [] => .segments []
  | text :: texts =>
    match Segment.ofChars text with
    | .error fault => .faulty fault
    | .ok s =>
      let seen := if s.takesSegment then seen + 1 else seen
      if parameterLimit ≤ seen then .tooManyParameters
      else
        match readSegments seen texts with
        | .segments rest => .segments (s :: rest)
        | other => other

/-- A parameter for the rest of the path must stand alone in the last segment. -/
def restIsLast : List Segment → Bool
  | [] => true
  | [s] => !s.takesRest || s.literal.isEmpty
  | s :: rest => !s.takesRest && restIsLast rest

def compile (route : List Char) : Compiled :=
  match readSegments 0 (Text.splitOn '/' route) with
  | .segments segments =>
    if restIsLast segments then .segments segments else .faulty .misplacedRest
  | other => other

def bindInner? : List Segment → List (List Char) → Option Fields
  | [], [] => some []
  | s :: segments, text :: texts => do
    let bound ← s.bind? text
    let more ← bindInner? segments texts
    return bound ++ more
  | _, _ => none

/-- What all the segments of a path bind. The parameter of the last one has to take
something if `needsValue` says so, or if literal text stands before it. -/
def bindSegments? (needsValue : Bool) : List Segment → List (List Char) → Option Fields
  | [], [] => some []
  | [s], [text] => s.bindLast? (needsValue || !s.literal.isEmpty) text
  | s :: segments, text :: texts => do
    let bound ← s.bind? text
    let more ← bindSegments? needsValue segments texts
    return bound ++ more
  | _, _ => none

/-- What a path binds whose last segments are left to a parameter for the rest. It takes at
least one character, unless the path ends before the slash in front of it; with nothing but
the root before it, the path may also end behind that slash. -/
def bindRest? (name : List Char) (before : List Segment) (texts : List (List Char)) :
    Option Fields :=
  let front := texts.take before.length
  let taken := Text.joinWith ['/'] (texts.drop before.length)
  if !taken.isEmpty then
    (bindInner? before front).map (· ++ [(String.ofList name, String.ofList taken)])
  else if texts.length = before.length ∨ before.length = 1 then
    (bindSegments? true before front).map (· ++ [(String.ofList name, "")])
  else none

def matchPath? (segments : List Segment) (path : List Char) : Option Fields :=
  let texts := Text.splitOn '/' path
  let bound? :=
    match segments.getLast? with
    | some ⟨_, some (.rest name)⟩ => bindRest? name segments.dropLast texts
    | _ => bindSegments? false segments texts
  bound?.map Fields.ofPairs

end ResourceDispatch.Route
