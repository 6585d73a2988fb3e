import TemplateStream.Fault
import TemplateStream.Text.Blank
import TemplateStream.Text.Casing
import TemplateStream.Text.Split

/-!
# Taps

A tap is a transform that text passes through on its way into a chunk. Taps are stacked: the
newest one sees the text first. A stack remembers how many of its taps it inherited; those stay
in force, and its owner cannot remove them.
-/

namespace TemplateStream

/-- A call of a tap that remembers: the number of the tap, and the text. -/
structure TapCall where
  tap : Nat
  text : String

/-- What a tap does to text, which it may refuse. -/
inductive Transform where
  /-- The result depends on the text alone. -/
  | stateless (apply : String → Except Fault String)
  /-- The result also depends on the number of the tap, and on what it and others that remember
  were called with before. -/
  | remembering (apply : Nat → List TapCall → String → Except Fault String)

namespace Transform

/-- A transform that refuses no text. -/
def total (apply : String → String) : Transform := .stateless fun text => .ok (apply text)

/-- Puts text into upper case. -/
def upper : Transform := total Text.upper

/-- Puts text into lower case. -/
def lower : Transform := total Text.lower

/-- Reverses the characters. -/
def reversing : Transform := total fun text => String.ofList text.toList.reverse

/-- Writes text twice. -/
def doubling : Transform := total fun text => text ++ text

/-- Drops text. -/
def dropping : Transform := total fun _ => ""

/-- Removes the blanks around text. -/
def stripping : Transform := total Text.strip

/-- Puts a text in front. -/
def preceding (front : String) : Transform := total fun text => front ++ text

/-- Puts a text behind. -/
def following (back : String) : Transform := total fun text => text ++ back

/-- Replaces each occurrence of a text. -/
def replacing (pattern replacement : String) : Transform :=
  total (Text.replace pattern replacement)

/-- Puts the number of the call before the text. -/
def counting : Transform := .remembering fun number calls text =>
  .ok s!"{calls.countP (fun call => call.tap == number) + 1}:{text}"

/-- Refuses every text. -/
def refusing (reason : String) : Transform := .stateless fun _ => .error (.raised .value reason)

end Transform

/-- An installed transform. A tap that remembers has a number of its own. -/
inductive Tap where
  | stateless (apply : String → Except Fault String)
  | remembering (number : Nat) (apply : List TapCall → String → Except Fault String)

/-- What the taps that remember know: how many of them were installed, and what they were called
with, oldest first. -/
structure TapMemory where
  installed : Nat := 0
  calls : List TapCall := []
  deriving Inhabited

/-- Steps of taps, which keep what was remembered when they fail. -/
abbrev TapM := ExceptT Fault (StateM TapMemory)

/-- Makes a transform a tap of its own. -/
def Transform.install : Transform → TapM Tap
  | .stateless apply => pure (.stateless apply)
  | .remembering apply => do
    let memory ← get
    set { memory with installed := memory.installed + 1 }
    pure (.remembering memory.installed (apply memory.installed))

/-- Passes text through one tap. -/
def Tap.apply (text : String) : Tap → TapM String
  | .stateless apply => liftExcept (apply text)
  | .remembering number apply => do
    let memory ← get
    let call : TapCall := ⟨number, text⟩
    set { memory with calls := memory.calls ++ [call] }
    liftExcept (apply memory.calls text)

/-- A stack of taps, newest first. The oldest `inherited` of them belong to somebody else. -/
structure TapStack where
  frames : List Tap := []
  inherited : Nat := 0
  deriving Inhabited

namespace TapStack

/-- Installs a tap. -/
def push (stack : TapStack) (tap : Tap) : TapStack :=
  { stack with frames := tap :: stack.frames }

/-- Removes the newest tap, which must be the owner's own. -/
def pop (stack : TapStack) : Except Fault (Tap × TapStack) :=
  match stack.frames with
  | tap :: rest =>
    if stack.inherited < stack.frames.length then .ok (tap, { stack with frames := rest })
    else .error (.chunk .unmatchedUntap)
  | [] => .error (.chunk .unmatchedUntap)

/-- Passes text through every tap, the newest first. -/
def apply (stack : TapStack) (text : String) : TapM String :=
  stack.frames.foldlM Tap.apply text

/-- A stack whose taps are all inherited from this one. -/
def inherit (stack : TapStack) : TapStack where
  frames := stack.frames
  inherited := stack.frames.length

/-- The number of taps. -/
def size (stack : TapStack) : Nat := stack.frames.length

/-- The number of taps that the owner installed. -/
def depth (stack : TapStack) : Nat := stack.frames.length - stack.inherited

end TapStack

end TemplateStream
