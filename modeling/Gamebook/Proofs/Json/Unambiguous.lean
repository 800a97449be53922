import Gamebook.Json.Printer

/-!
# The text of a value tells the value

A text that looks like a value may stand in a string, and strings may hold quotes, backslashes and
line breaks, so it takes an argument that two values never have one text.  The argument is that a
text can be read from the front: whatever follows, its start tells where a part ends and what the
part is.  Said of two texts that are equal, one after the other, this is cancellation:

* of a character in a string (`escaped_append_inj`), because an escape starts with a backslash and a
  character that stands for itself is none;
* of a string (`quoted_append_inj`), because a quote within it starts an escape;
* of a value (`layout_append_inj`), because its first character tells of which kind it is
  (`head?_layout`), and after an item or a member there is a comma or the end of the line.

## Why there are no numbers

Digits tell only by what follows them where a number ends.  A story document has no numbers, so they
are left out, and what is said holds of whatever may follow.
-/

namespace Gamebook.Json

/-! ### Characters in a string -/

/-- The character that a text within quotes starts with, and the rest of the text. -/
def unescape? : List Char → Option (Char × List Char)
  | '\\' :: 'n' :: rest => some ('\n', rest)
  | '\\' :: 'r' :: rest => some ('\r', rest)
  | '\\' :: 't' :: rest => some ('\t', rest)
  | '\\' :: 'b' :: rest => some ('\x08', rest)
  | '\\' :: 'f' :: rest => some ('\x0c', rest)
  | '\\' :: 'u' :: '0' :: '0' :: high :: low :: rest => do
    return (Char.ofNat (16 * (← Numeral.digitValue high) + (← Numeral.digitValue low)), rest)
  | '\\' :: itself :: rest => some (itself, rest)
  | itself :: rest => some (itself, rest)
  | [] => none

theorem digitValue_hexDigit : ∀ n < 16, Numeral.digitValue (Numeral.hexDigit n) = some n := by
  decide

/-- **A character is read back from how it stands in a string.** -/
theorem unescape?_escaped_append (c : Char) (rest : List Char) :
    unescape? (escaped c ++ rest) = some (c, rest) := by
  rw [escaped]
  split
  · next quote => subst quote; rfl
  split
  · next backslash => subst backslash; rfl
  split
  · next same => subst same; rfl
  split
  · next same => subst same; rfl
  split
  · next same => subst same; rfl
  split
  · next same => subst same; rfl
  split
  · next same => subst same; rfl
  split
  · next control =>
    have high := digitValue_hexDigit (c.toNat / 16) (by omega)
    have low := digitValue_hexDigit (c.toNat % 16) (by omega)
    have value : 16 * (c.toNat / 16) + c.toNat % 16 = c.toNat := Nat.div_add_mod _ _
    show (do return (Char.ofNat (16 * (← Numeral.digitValue _) + (← Numeral.digitValue _)), rest)) = _
    rw [high, low]
    simp [value]
  · next _ plain _ _ _ _ _ _ =>
    show unescape? (c :: rest) = some (c, rest)
    rw [unescape?] <;> (intros; contradiction)

theorem escaped_append_inj {c d : Char} {rest rest' : List Char}
    (same : escaped c ++ rest = escaped d ++ rest') : c = d ∧ rest = rest' := by
  have read := unescape?_escaped_append c rest
  rw [same, unescape?_escaped_append, Option.some.injEq, Prod.mk.injEq] at read
  exact ⟨read.1.symm, read.2.symm⟩

/-- A character in a string never looks like the quote at its end. -/
theorem escaped_append_ne_quote (c : Char) (rest rest' : List Char) :
    escaped c ++ rest ≠ '"' :: rest' := by
  intro same
  have read := unescape?_escaped_append c rest
  rw [same, show unescape? ('"' :: rest') = some ('"', rest') from rfl, Option.some.injEq,
    Prod.mk.injEq] at read
  obtain ⟨rfl, -⟩ := read
  simp [escaped] at same

/-! ### Strings -/

theorem flatMap_escaped_append_inj :
    ∀ {cs ds rest rest' : List Char},
      cs.flatMap escaped ++ '"' :: rest = ds.flatMap escaped ++ '"' :: rest' → cs = ds ∧ rest = rest'
  | [], [], _, _, same => ⟨rfl, (List.cons.inj same).2⟩
  | [], d :: ds, rest, rest', same => by
    rw [List.flatMap_cons, List.append_assoc] at same
    exact absurd same.symm (escaped_append_ne_quote d _ rest)
  | c :: cs, [], rest, rest', same => by
    rw [List.flatMap_cons, List.append_assoc] at same
    exact absurd same (escaped_append_ne_quote c _ rest')
  | c :: cs, d :: ds, rest, rest', same => by
    rw [List.flatMap_cons, List.flatMap_cons, List.append_assoc, List.append_assoc] at same
    obtain ⟨first, others⟩ := escaped_append_inj same
    obtain ⟨chars, rests⟩ := flatMap_escaped_append_inj others
    exact ⟨first ▸ chars ▸ rfl, rests⟩

/-- **Where a string ends, and what it is**, does not depend on what follows. -/
theorem quoted_append_inj {s t : String} {rest rest' : List Char}
    (same : quoted s ++ rest = quoted t ++ rest') : s = t ∧ rest = rest' := by
  simp only [quoted, List.cons_append, List.append_assoc, List.nil_append, List.cons.injEq,
    true_and] at same
  obtain ⟨chars, same⟩ := flatMap_escaped_append_inj same
  exact ⟨String.toList_inj.1 chars, same⟩

/-! ### Values -/

namespace Value

mutual

/-- The value has no number in it. -/
def numberFree : Value → Bool
  | .integer _ => false
  | .decimal _ => false
  | .array items => numberFreeItems items
  | .object members => numberFreeMembers members
  | _ => true

/-- The items have no number in them. -/
def numberFreeItems : List Value → Bool
  | [] => true
  | item :: items => item.numberFree && numberFreeItems items

/-- The members have no number in them. -/
def numberFreeMembers : List (String × Value) → Bool
  | [] => true
  | (_, value) :: members => value.numberFree && numberFreeMembers members

end

theorem numberFree_array_iff {items : List Value} :
    (Value.array items).numberFree = true ↔ ∀ item ∈ items, item.numberFree = true := by
  rw [numberFree]
  induction items with
  | nil => simp [numberFreeItems]
  | cons item items ih => rw [numberFreeItems, Bool.and_eq_true, ih, List.forall_mem_cons]

theorem numberFree_object_iff {members : List (String × Value)} :
    (Value.object members).numberFree = true ↔ ∀ member ∈ members, member.2.numberFree = true := by
  rw [numberFree]
  induction members with
  | nil => simp [numberFreeMembers]
  | cons member members ih => rw [numberFreeMembers, Bool.and_eq_true, ih, List.forall_mem_cons]

/-- The character that the text of a value without numbers starts with. -/
def opening : Value → Char
  | .null => 'n'
  | .boolean true => 't'
  | .boolean false => 'f'
  | .string _ => '"'
  | .array _ => '['
  | .object _ => '{'
  | _ => '0'

/-- Values of one kind, the two truth values being kinds of their own. -/
inductive Alike : Value → Value → Prop where
  | null : Alike .null .null
  | boolean (value : Bool) : Alike (.boolean value) (.boolean value)
  | string (text text' : String) : Alike (.string text) (.string text')
  | array (items items' : List Value) : Alike (.array items) (.array items')
  | object (members members' : List (String × Value)) : Alike (.object members) (.object members')

theorem alike_of_opening_eq {value other : Value} (free : value.numberFree = true)
    (free' : other.numberFree = true) (opens : value.opening = other.opening) :
    Alike value other := by
  rcases value with _ | (_ | _) | _ | _ | text | items | members <;>
    rcases other with _ | (_ | _) | _ | _ | text' | items' | members'
  case null.null => exact .null
  case boolean.false.boolean.false => exact .boolean false
  case boolean.true.boolean.true => exact .boolean true
  case string.string => exact .string text text'
  case array.array => exact .array items items'
  case object.object => exact .object members members'
  all_goals simp [numberFree, opening] at free free' opens

end Value

open Value

theorem head?_layout {value : Value} (free : value.numberFree = true) (level : Nat)
    (rest : List Char) : (layout level value ++ rest).head? = some value.opening := by
  cases value with
  | null => rfl
  | boolean value => cases value <;> rfl
  | integer value => simp [numberFree] at free
  | decimal value => simp [numberFree] at free
  | string text => rfl
  | array items => cases items <;> rfl
  | object members => cases members <;> rfl

/-- Equal texts start with values of one kind. -/
theorem alike_of_layout_append_eq {value other : Value} (free : value.numberFree = true)
    (free' : other.numberFree = true) {level : Nat} {rest rest' : List Char}
    (same : layout level value ++ rest = layout level other ++ rest') : Alike value other := by
  have heads := congrArg List.head? same
  rw [head?_layout free, head?_layout free'] at heads
  exact alike_of_opening_eq free free' (Option.some.inj heads)

/-! ### Items and members -/

variable {level : Nat} {rest rest' : List Char}

/-- An array is laid out as its items are, with a bracket in place of the first comma. -/
theorem layoutItems_append_eq_of_array {items items' : List Value}
    (same : layout level (.array items) ++ rest = layout level (.array items') ++ rest') :
    layoutItems level items ++ rest = layoutItems level items' ++ rest' := by
  cases items with
  | nil =>
    cases items' with
    | nil => rw [List.append_cancel_left same]
    | cons item' items' => simp [layout, newline] at same
  | cons item items =>
    cases items' with
    | nil => simp [layout, newline] at same
    | cons item' items' => exact congrArg (',' :: ·) (List.cons.inj same).2

/-- An object is laid out as its members are, with a brace in place of the first comma. -/
theorem layoutMembers_append_eq_of_object {members members' : List (String × Value)}
    (same : layout level (.object members) ++ rest = layout level (.object members') ++ rest') :
    layoutMembers level members ++ rest = layoutMembers level members' ++ rest' := by
  cases members with
  | nil =>
    cases members' with
    | nil => rw [List.append_cancel_left same]
    | cons member' members' => simp [layout, newline] at same
  | cons member members =>
    cases members' with
    | nil => simp [layout, newline] at same
    | cons member' members' => exact congrArg (',' :: ·) (List.cons.inj same).2

mutual

/-- **Where a value ends, and what it is**, does not depend on what follows. -/
theorem layout_append_inj : ∀ {value other : Value}, value.numberFree = true →
    other.numberFree = true → ∀ {level : Nat} {rest rest' : List Char},
      layout level value ++ rest = layout level other ++ rest' → value = other ∧ rest = rest'
  | .null, _, free, free', _, _, _, same => by
    cases alike_of_layout_append_eq free free' same
    exact ⟨rfl, List.append_cancel_left same⟩
  | .boolean _, _, free, free', _, _, _, same => by
    cases alike_of_layout_append_eq free free' same
    exact ⟨rfl, List.append_cancel_left same⟩
  | .string text, _, free, free', _, _, _, same => by
    cases alike_of_layout_append_eq free free' same with
    | string _ text' =>
      obtain ⟨texts, rests⟩ := quoted_append_inj same
      exact ⟨congrArg Value.string texts, rests⟩
  | .array items, _, free, free', _, _, _, same => by
    cases alike_of_layout_append_eq free free' same with
    | array _ items' =>
      obtain ⟨equal, rests⟩ :=
        layoutItems_append_inj free free' (layoutItems_append_eq_of_array same)
      exact ⟨congrArg Value.array equal, rests⟩
  | .object members, _, free, free', _, _, _, same => by
    cases alike_of_layout_append_eq free free' same with
    | object _ members' =>
      obtain ⟨equal, rests⟩ :=
        layoutMembers_append_inj free free' (layoutMembers_append_eq_of_object same)
      exact ⟨congrArg Value.object equal, rests⟩

theorem layoutItems_append_inj : ∀ {items items' : List Value}, numberFreeItems items = true →
    numberFreeItems items' = true → ∀ {level : Nat} {rest rest' : List Char},
      layoutItems level items ++ rest = layoutItems level items' ++ rest' →
        items = items' ∧ rest = rest'
  | [], [], _, _, _, _, _, same => ⟨rfl, List.append_cancel_left same⟩
  | [], _ :: _, _, _, _, _, _, same => by simp [layoutItems, newline] at same
  | _ :: _, [], _, _, _, _, _, same => by simp [layoutItems, newline] at same
  | item :: items, item' :: items', free, free', level, rest, rest', same => by
    rw [numberFreeItems, Bool.and_eq_true] at free free'
    simp only [layoutItems, List.cons_append, List.append_assoc, List.cons.injEq, true_and,
      List.append_cancel_left_eq] at same
    obtain ⟨first, others⟩ := layout_append_inj free.1 free'.1 same
    obtain ⟨equal, rests⟩ := layoutItems_append_inj free.2 free'.2 others
    exact ⟨first ▸ equal ▸ rfl, rests⟩

theorem layoutMembers_append_inj : ∀ {members members' : List (String × Value)},
    numberFreeMembers members = true → numberFreeMembers members' = true →
    ∀ {level : Nat} {rest rest' : List Char},
      layoutMembers level members ++ rest = layoutMembers level members' ++ rest' →
        members = members' ∧ rest = rest'
  | [], [], _, _, _, _, _, same => ⟨rfl, List.append_cancel_left same⟩
  | [], _ :: _, _, _, _, _, _, same => by simp [layoutMembers, newline] at same
  | _ :: _, [], _, _, _, _, _, same => by simp [layoutMembers, newline] at same
  | (name, value) :: members, (name', value') :: members', free, free', level, rest, rest', same => by
    rw [numberFreeMembers, Bool.and_eq_true] at free free'
    simp only [layoutMembers, List.cons_append, List.append_assoc, List.cons.injEq, true_and,
      List.append_cancel_left_eq] at same
    obtain ⟨names, same⟩ := quoted_append_inj same
    obtain ⟨values, others⟩ := layout_append_inj free.1 free'.1 (List.append_cancel_left same)
    obtain ⟨equal, rests⟩ := layoutMembers_append_inj free.2 free'.2 others
    exact ⟨names ▸ values ▸ equal ▸ rfl, rests⟩

end

/-- **Two values without numbers that have one text are one value.** -/
theorem render_injective {value other : Value} (free : value.numberFree = true)
    (free' : other.numberFree = true) (same : render value = render other) : value = other := by
  have chars : layout 0 value ++ [] = layout 0 other ++ [] :=
    congrArg (· ++ []) (String.ofList_injective same)
  exact (layout_append_inj free free' chars).1

end Gamebook.Json
