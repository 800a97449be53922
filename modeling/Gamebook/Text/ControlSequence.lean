/-!
# Text without control sequences

A terminal takes some of the text that it is sent as orders: an escape character starts a control
sequence, which goes on up to a character that ends it.  What is left of a text without its orders
is what it shows.  Of the control characters only the tab and those that break a line or a page are
shown, and these also within a sequence; what stands behind such a character is shown up to the next
control character, behind which the sequence goes on.

A sequence of the longer kind, a passage, ends at the octet `9C`, whatever character that octet is a
part of in UTF-8.
-/

namespace Gamebook.Text

/-- What a terminal takes the next character for. -/
inductive Reception where
  /-- Text. -/
  | plain
  /-- What follows an escape character. -/
  | escape
  /-- What follows an escape character and further signs. -/
  | furtherEscape
  /-- A part of a sequence that a letter ends. -/
  | sequence
  /-- The start of a passage with a header. -/
  | header
  /-- A part of the numbers in a header. -/
  | headerNumber
  /-- A part of the signs in a header. -/
  | headerSign
  /-- A part of a passage. -/
  | passage
  /-- A part of a title, which a bell ends. -/
  | title
  deriving DecidableEq, Repr

namespace Reception

/-- The character takes one octet in UTF-8. -/
def isShort (c : Char) : Bool := c.toNat < 0x80

/-- The character is a tab or breaks a line or a page. -/
def isLayout (c : Char) : Bool := c == '\t' || c == '\n' || c == '\x0c' || c == '\r'

/-- The character is shown. -/
def shows (reception : Reception) (c : Char) : Bool :=
  match reception with
  | plain => isLayout c || (0x20 ≤ c.toNat && c.toNat != 0x7F)
  | escape | furtherEscape | sequence => isLayout c
  | _ => false

/-- What is shown within a sequence is shown as text too. -/
theorem plain_shows_of_shows {reception : Reception} {c : Char} (h : reception.shows c = true) :
    plain.shows c = true := by
  cases reception <;> simp_all [shows]

/-- What the character behind `c` is taken for, where `c` takes one octet and neither is the escape
character nor cancels a sequence. -/
def afterShort (reception : Reception) (c : Char) : Reception :=
  match reception with
  | plain => plain
  | escape =>
    if c == '[' then sequence
    else if c == ']' then title
    else if c == 'P' then header
    else if c == 'X' || c == '^' || c == '_' then passage
    else if ' ' ≤ c ∧ c ≤ '/' then furtherEscape
    else if '0' ≤ c ∧ c ≤ '~' then plain
    else escape
  | furtherEscape => if '0' ≤ c ∧ c ≤ '~' then plain else furtherEscape
  | sequence => if '@' ≤ c ∧ c ≤ '~' then plain else sequence
  | header =>
    if ' ' ≤ c ∧ c ≤ '/' then headerSign
    else if '0' ≤ c ∧ c ≤ '?' then headerNumber
    else if '@' ≤ c ∧ c ≤ '~' then passage
    else header
  | headerNumber =>
    if ' ' ≤ c ∧ c ≤ '/' then headerSign
    else if '<' ≤ c ∧ c ≤ '~' then passage
    else headerNumber
  | headerSign => if '0' ≤ c ∧ c ≤ '~' then passage else headerSign
  | passage => passage
  | title => if c == '\x07' then plain else title

/-- What the character behind `c` is taken for. -/
def after (reception : Reception) (c : Char) : Reception :=
  if c == '\x1b' then escape
  else if c == '\x18' || c == '\x1a' then plain
  else if isShort c then reception.afterShort c
  else if reception = passage ∧ (String.utf8EncodeChar c).contains 0x9C then plain
  else reception

end Reception

/-- What is shown of a text, given what its first character is taken for and whether the character
in front of it is shown. -/
def shownFrom (reception : Reception) (showing : Bool) : List Char → List Char
  | [] => []
  | c :: rest =>
    let taken := if showing then .plain else reception
    if taken.shows c then
      c :: shownFrom (if Reception.isShort c then reception else .plain) true rest
    else shownFrom (reception.after c) false rest

open Reception in
/-- **What is shown can be shown**: no control characters are left but those of layout. -/
theorem shows_of_mem_shownFrom {reception : Reception} {showing : Bool} {s : List Char} {c : Char}
    (h : c ∈ shownFrom reception showing s) : Reception.plain.shows c = true := by
  induction s generalizing reception showing with
  | nil => cases h
  | cons d rest ih =>
    by_cases shown : (if showing then plain else reception).shows d = true
    · simp only [shownFrom, shown, if_true] at h
      rcases List.mem_cons.mp h with rfl | h
      · exact plain_shows_of_shows shown
      · exact ih h
    · simp only [shownFrom, shown, if_false, Bool.false_eq_true] at h
      exact ih h

/-- **Text that can be shown is shown as it is.** -/
theorem shownFrom_plain {s : List Char} (h : ∀ c ∈ s, Reception.plain.shows c = true)
    (showing : Bool) : shownFrom .plain showing s = s := by
  induction s generalizing showing with
  | nil => rfl
  | cons c rest ih =>
    have shown := h c (List.mem_cons_self ..)
    have rest_eq := ih (fun d hd => h d (List.mem_cons_of_mem _ hd)) true
    simp only [shownFrom, ite_self, shown, if_true, rest_eq]

/-- What is shown of a text. -/
def shown (s : String) : String := String.ofList (shownFrom .plain false s.toList)

end Gamebook.Text
