/-!
# Control sequences

A terminal takes some characters as commands: single control characters, and sequences that an
escape character opens. `stripControls` leaves out both. What remains is what a terminal shows.

A sequence is read character by character. The state between two characters is what kind of
sequence has been begun (`Mode`) and whether white space has broken it up (`State.interrupted`).
`State.step` gives the state behind a character and tells whether the character is text. A text
without control characters stays as it is (`State.strip_start`).
-/

namespace GlslCompliance.Text

/-- How far a sequence has been read. -/
inductive Mode where
  /-- Outside every sequence. -/
  | text
  /-- Behind an escape character. -/
  | escape
  /-- In an escape sequence of several characters. -/
  | escapeIntermediate
  /-- In a control sequence: behind an escape character and an opening bracket. -/
  | control
  /-- In an operating system command, which a bell ends. -/
  | command
  /-- At the start of a device control string. -/
  | deviceStart
  /-- In the parameters of a device control string. -/
  | deviceParameter
  /-- Behind the parameters of a device control string. -/
  | deviceIntermediate
  /-- In a string that a terminal does not show. -/
  | hidden
  deriving DecidableEq, Repr

/-- Whether a character lies between two others, both included. -/
def liesBetween (low high c : Char) : Bool := low ≤ c && c ≤ high

/-- White space that lays out text: space, tab, line feed, form feed and carriage return. -/
def isLayout (c : Char) : Bool :=
  c = ' ' || c = '\t' || c = '\n' || c = '\x0c' || c = '\r'

/-- Whether a character is text where no sequence has been begun: all but the control characters
of ASCII that lay out nothing. -/
def isPlain (c : Char) : Bool := liesBetween ' ' '~' c || isLayout c || '\x7f' < c

/-- Whether one of the bytes behind the first in the encoding of a character is the string
terminator of the eight bit control characters. -/
def holdsTerminator (c : Char) : Bool := (String.utf8EncodeChar c).drop 1 |>.contains 0x9c

namespace Mode

/-- The mode behind a character that belongs to a sequence. An escape character begins a new
sequence everywhere, and the control characters cancel and substitute end every sequence. Where a
mode has no use for a character it stays as it is. -/
def next (m : Mode) (c : Char) : Mode :=
  if c = '\x1b' then escape
  else if c = '\x18' || c = '\x1a' then text
  else
    match m with
    | text => text
    | escape =>
      if liesBetween ' ' '/' c then escapeIntermediate
      else if c = '[' then control
      else if c = ']' then command
      else if c = 'P' then deviceStart
      else if c = 'X' || c = '^' || c = '_' then hidden
      else if liesBetween '0' '~' c then text
      else escape
    | escapeIntermediate => if liesBetween '0' '~' c then text else escapeIntermediate
    | control => if liesBetween '@' '~' c then text else control
    | command => if c = '\x07' then text else command
    | deviceStart =>
      if liesBetween ' ' '/' c then deviceIntermediate
      else if liesBetween '0' '?' c then deviceParameter
      else if liesBetween '@' '~' c then hidden
      else deviceStart
    | deviceParameter =>
      if liesBetween ' ' '/' c then deviceIntermediate
      else if liesBetween '<' '~' c then hidden
      else deviceParameter
    | deviceIntermediate => if liesBetween '0' '~' c then hidden else deviceIntermediate
    | hidden => if holdsTerminator c then text else hidden

/-- Whether a character is text in a mode. White space is, in all sequences that are not strings,
but for the space. -/
def shows : Mode → Char → Bool
  | text, c => isPlain c
  | escape, c | escapeIntermediate, c | control, c => c ≠ ' ' && isLayout c
  | _, _ => false

end Mode

/-- The state between two characters. -/
structure State where
  mode : Mode
  /-- White space has broken up a sequence. What can be shown is text until the next control
  character, with which the sequence goes on. -/
  interrupted : Bool
  deriving DecidableEq, Repr

namespace State

/-- The state outside every sequence. -/
def start : State := ⟨.text, false⟩

/-- The state behind a character, and whether the character is text. A broken sequence is given up
where a character beyond ASCII is shown. -/
def step (s : State) (c : Char) : State × Bool :=
  if s.interrupted && isPlain c then (if '\x7f' < c then start else s, true)
  else
    let shown := s.mode.shows c
    (⟨s.mode.next c, shown && s.mode ≠ .text⟩, shown)

/-- The text in what follows a state. -/
def strip (s : State) : List Char → List Char
  | [] => []
  | c :: rest =>
    let (next, shown) := s.step c
    if shown then c :: next.strip rest else next.strip rest

/-- Behind a plain character outside every sequence nothing has been begun. -/
theorem step_start {c : Char} (h : isPlain c) : start.step c = (start, true) := by
  have he : c ≠ '\x1b' := by rintro rfl; exact absurd h (by decide)
  simp [step, start, Mode.shows, Mode.next, h, he]

/-- A text without control characters stays as it is. -/
theorem strip_start {cs : List Char} (h : ∀ c ∈ cs, isPlain c) : start.strip cs = cs := by
  induction cs with
  | nil => rfl
  | cons c cs ih =>
    simp [strip, step_start (h c (by simp)), ih fun d hd => h d (by simp [hd])]

end State

/-- A text without control characters and control sequences. -/
def stripControls (text : String) : String := String.ofList (State.start.strip text.toList)

end GlslCompliance.Text
