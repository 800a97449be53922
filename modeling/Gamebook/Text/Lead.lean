/-!
# Leads

Two questions about a fixed text, the lead, in another text: what follows it if the other text starts
with it, and where it stands first.  Both are answered by the parts into which the lead cuts the text,
so that the answer can be put together again.

`following?_eq_some_iff` says what it is to start with a lead.  For the first place, `eq_append_of_cutAt?`
puts the parts together, `length_le_of_cutAt?` says that no place is before it, and
`cutAt?_eq_none_iff` that one is found wherever there is one.  `cutAt?_eq_some_iff` is these three in one.
-/

namespace Gamebook.Text

/-! ### What follows a lead -/

/-- What follows the lead in a text that starts with it. -/
def following? : (lead : List Char) → List Char → Option (List Char)
  | [], s => some s
  | _ :: _, [] => none
  | c :: lead, d :: s => if c = d then following? lead s else none

@[simp] theorem following?_nil (s : List Char) : following? [] s = some s := by
  cases s <;> rfl

/-- **A text starts with a lead when it is the lead and what follows it.** -/
theorem following?_eq_some_iff {rest : List Char} :
    ∀ {lead s : List Char}, following? lead s = some rest ↔ s = lead ++ rest
  | [], s => by simp [eq_comm]
  | c :: lead, [] => by simp [following?]
  | c :: lead, d :: s => by
    rw [following?]
    split
    · next same => rw [following?_eq_some_iff, same, List.cons_append, List.cons.injEq, eq_self, true_and]
    · next other => simp [Ne.symm other]

/-- A lead of two parts is followed by what follows its second part. -/
theorem following?_append (lead more s : List Char) :
    following? (lead ++ more) s = (following? lead s).bind (following? more) := by
  ext rest
  simp only [Option.bind_eq_some_iff, following?_eq_some_iff, List.append_assoc]
  constructor
  · rintro rfl
    exact ⟨_, rfl, rfl⟩
  · rintro ⟨_, rfl, rfl⟩
    rfl

/-! ### The first place of a lead -/

/-- The text before the first place where the lead stands, and the text after the lead. -/
def cutAt? (lead : List Char) : List Char → Option (List Char × List Char)
  | [] => (following? lead []).map fun after => ([], after)
  | c :: rest =>
    match following? lead (c :: rest) with
    | some after => some ([], after)
    | none => (cutAt? lead rest).map fun parts => (c :: parts.1, parts.2)

/-- Where the text starts with the lead, it is cut in front of everything. -/
theorem cutAt?_of_following? {lead s after : List Char} (h : following? lead s = some after) :
    cutAt? lead s = some ([], after) := by
  cases s with
  | nil => rw [cutAt?, h, Option.map_some]
  | cons c rest => rw [cutAt?, h]

/-- Where it does not, it is cut where the rest of it is. -/
theorem cutAt?_cons_of_following?_eq_none {lead rest : List Char} {c : Char}
    (h : following? lead (c :: rest) = none) :
    cutAt? lead (c :: rest) = (cutAt? lead rest).map fun parts => (c :: parts.1, parts.2) := by
  rw [cutAt?, h]

/-- **A text that is cut is what stands before the lead, the lead, and the rest.** -/
theorem eq_append_of_cutAt? {lead s before after : List Char}
    (h : cutAt? lead s = some (before, after)) : s = before ++ (lead ++ after) := by
  induction s generalizing before with
  | nil =>
    obtain ⟨rest, found, same⟩ := Option.map_eq_some_iff.1 h
    rw [Prod.mk.injEq] at same
    obtain ⟨rfl, rfl⟩ := same
    rw [List.nil_append]
    exact following?_eq_some_iff.1 found
  | cons c s ih =>
    cases here : following? lead (c :: s) with
    | some rest =>
      rw [cutAt?_of_following? here, Option.some.injEq, Prod.mk.injEq] at h
      obtain ⟨rfl, rfl⟩ := h
      rw [List.nil_append]
      exact following?_eq_some_iff.1 here
    | none =>
      rw [cutAt?_cons_of_following?_eq_none here] at h
      obtain ⟨⟨front, back⟩, found, same⟩ := Option.map_eq_some_iff.1 h
      rw [Prod.mk.injEq] at same
      obtain ⟨rfl, rfl⟩ := same
      rw [List.cons_append, ← ih found]

/-- **The lead stands nowhere before the place where the text is cut.** -/
theorem length_le_of_cutAt? {lead s before after front back : List Char}
    (h : cutAt? lead s = some (before, after)) (place : s = front ++ (lead ++ back)) :
    before.length ≤ front.length := by
  induction s generalizing before front with
  | nil =>
    obtain ⟨rest, _, same⟩ := Option.map_eq_some_iff.1 h
    rw [Prod.mk.injEq] at same
    obtain ⟨rfl, -⟩ := same
    exact Nat.zero_le _
  | cons c s ih =>
    cases here : following? lead (c :: s) with
    | some rest =>
      rw [cutAt?_of_following? here, Option.some.injEq, Prod.mk.injEq] at h
      obtain ⟨rfl, -⟩ := h
      exact Nat.zero_le _
    | none =>
      rw [cutAt?_cons_of_following?_eq_none here] at h
      obtain ⟨⟨first, rest⟩, found, same⟩ := Option.map_eq_some_iff.1 h
      rw [Prod.mk.injEq] at same
      obtain ⟨rfl, rfl⟩ := same
      cases front with
      | nil =>
        rw [List.nil_append] at place
        rw [following?_eq_some_iff.2 place] at here
        contradiction
      | cons d front =>
        rw [List.cons_append, List.cons.injEq] at place
        exact Nat.succ_le_succ (ih found place.2)

/-- **A text is cut unless the lead stands nowhere in it.** -/
theorem cutAt?_eq_none_iff {lead s : List Char} :
    cutAt? lead s = none ↔ ∀ front back, s ≠ front ++ (lead ++ back) := by
  constructor
  · intro h front back place
    induction front generalizing s with
    | nil =>
      rw [List.nil_append] at place
      rw [cutAt?_of_following? (following?_eq_some_iff.2 place)] at h
      contradiction
    | cons d front ih =>
      subst place
      cases here : following? lead (d :: front ++ (lead ++ back)) with
      | some rest =>
        rw [cutAt?_of_following? here] at h
        contradiction
      | none =>
        rw [List.cons_append] at h here
        rw [cutAt?_cons_of_following?_eq_none here, Option.map_eq_none_iff] at h
        exact ih h rfl
  · intro h
    cases found : cutAt? lead s with
    | none => rfl
    | some parts => exact absurd (eq_append_of_cutAt? found) (h parts.1 parts.2)

/-- The lead stands in the text between the two parts, and it stands nowhere before. -/
structure FirstPlace (lead s before after : List Char) : Prop where
  parts : s = before ++ (lead ++ after)
  first : ∀ front back, s = front ++ (lead ++ back) → before.length ≤ front.length

/-- There is one first place at most. -/
theorem FirstPlace.unique {lead s before after before' after' : List Char}
    (place : FirstPlace lead s before after) (place' : FirstPlace lead s before' after') :
    before = before' ∧ after = after' := by
  have same : before.length = before'.length :=
    Nat.le_antisymm (place.first _ _ place'.parts) (place'.first _ _ place.parts)
  obtain ⟨rfl, rest⟩ := List.append_inj (place.parts.symm.trans place'.parts) same
  exact ⟨rfl, List.append_cancel_left rest⟩

/-- **A text is cut at the first place of the lead.** -/
theorem cutAt?_eq_some_iff {lead s before after : List Char} :
    cutAt? lead s = some (before, after) ↔ FirstPlace lead s before after := by
  constructor
  · intro found
    exact ⟨eq_append_of_cutAt? found, fun _ _ => length_le_of_cutAt? found⟩
  · intro place
    cases found : cutAt? lead s with
    | none => exact absurd place.parts (cutAt?_eq_none_iff.1 found _ _)
    | some parts =>
      obtain ⟨same, same'⟩ :=
        place.unique ⟨eq_append_of_cutAt? found, fun _ _ => length_le_of_cutAt? found⟩
      rw [same, same']

end Gamebook.Text
