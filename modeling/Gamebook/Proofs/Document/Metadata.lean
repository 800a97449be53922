import Gamebook.Document.Metadata
import Gamebook.Proofs.Yaml.Mapping
import Mathlib.Data.List.Induction

/-!
# What metadata says

Ten keys of a metadata block mean something, and each of them is looked at by itself: what is read
depends on the values under these keys alone (`ofEntries_congr`).  So other entries may come and go, and
all entries of a mapping may change places (`ofEntries_eq_of_perm`).

## Problems

A problem is reported for every key with a value that is of no use (`mem_problems_iff`), once for each key
and in the order of the keys (`sublist_keys_of_problems`), and the field of such a key is left empty
(`isEmptyAt_of_rejects`).  Null is of no use either, but it is not reported.  What counts as null is
not the same for all keys: an option takes a null behind tags for null, while a flag or the choices take it
for a tagged value, which they report (`Key.TakesForNull`).

## Choices

The labels of choices are texts, and keys that are distinct, like `1` and `"1"`, may have the same text.  Of
the choices under one label the last counts (`find?_choices_iff`).
-/

namespace Gamebook

namespace NameTable

variable {α : Type}

theorem ofList_concat (entries : List (String × α)) (entry : String × α) :
    ofList (entries ++ [entry]) = (ofList entries).insert entry.1 entry.2 := by
  simp only [ofList, List.foldl_append, List.foldl_cons, List.foldl_nil]

theorem findIn?_eq_some_iff_append {entries : List (String × α)} {name : String} {value : α} :
    findIn? name entries = some value ↔
      ∃ front back, entries = front ++ (name, value) :: back ∧
        ∀ earlier ∈ front, earlier.1 ≠ name := by
  induction entries with
  | nil => simp [findIn?]
  | cons entry rest ih =>
    rw [findIn?]
    split
    · next same =>
      subst same
      constructor
      · rintro ⟨⟩
        exact ⟨[], rest, rfl, List.forall_mem_nil _⟩
      · rintro ⟨_ | ⟨first, front⟩, back, split, others⟩
        · exact congrArg (some ·.2) (List.cons.inj split).1
        · obtain ⟨rfl, -⟩ := List.cons.inj split
          exact absurd rfl (others _ List.mem_cons_self)
    · next other =>
      rw [ih]
      constructor
      · rintro ⟨front, back, rfl, others⟩
        exact ⟨entry :: front, back, rfl, List.forall_mem_cons.2 ⟨other, others⟩⟩
      · rintro ⟨_ | ⟨first, front⟩, back, split, others⟩
        · exact absurd (congrArg Prod.fst (List.cons.inj split).1) other
        · obtain ⟨rfl, rfl⟩ := List.cons.inj split
          exact ⟨front, back, rfl, (List.forall_mem_cons.1 others).2⟩

/-- What is found in the table of a list is found from the end of the list. -/
theorem find?_ofList (entries : List (String × α)) (name : String) :
    (ofList entries).find? name = findIn? name entries.reverse := by
  induction entries using List.reverseRecOn with
  | nil => rfl
  | append_singleton entries last ih =>
    rw [ofList_concat, List.reverse_append, List.reverse_singleton, List.singleton_append, findIn?,
      insert]
    split
    · next same => rw [← same, find?_upsert_self]
    · next other => rw [find?_upsert_of_ne _ _ (Ne.symm other), ih]

/-- **Of the entries under one name** the last is in the table of a list. -/
theorem find?_ofList_eq_some_iff {entries : List (String × α)} {name : String} {value : α} :
    (ofList entries).find? name = some value ↔
      ∃ front back, entries = front ++ (name, value) :: back ∧ ∀ later ∈ back, later.1 ≠ name := by
  rw [find?_ofList, findIn?_eq_some_iff_append]
  constructor
  · rintro ⟨back, front, split, others⟩
    refine ⟨front.reverse, back.reverse, ?_, fun later member => others later (List.mem_reverse.1 member)⟩
    rw [← List.reverse_reverse entries, split]
    simp
  · rintro ⟨front, back, rfl, others⟩
    refine ⟨back.reverse, front.reverse, by simp, fun later member => ?_⟩
    exact others later (List.mem_reverse.1 member)

end NameTable

namespace Document

open Gamebook.Story

/-! ### Keys -/

/-- The keys in the order in which they are looked at. -/
def Key.all : List Key := [.start, .ending, .revisit, .choices] ++ Concern.all.map .option

theorem Key.mem_all (key : Key) : key ∈ Key.all := by
  cases key with
  | option concern => exact List.mem_append_right _ (List.mem_map_of_mem (Concern.mem_all concern))
  | start => decide
  | ending => decide
  | revisit => decide
  | choices => decide

theorem Key.nodup_all : Key.all.Nodup := by decide

/-- The entry is under one of the keys that mean something. -/
def isRecognised (entry : Yaml.Value × Yaml.Value) : Bool :=
  match entry.1 with
  | .string text => Key.all.any fun key => key.text == text
  | _ => false

theorem isRecognised_text (key : Key) (value : Yaml.Value) :
    isRecognised (.string key.text, value) = true :=
  List.any_eq_true.2 ⟨key, key.mem_all, beq_self_eq_true _⟩

/-! ### Entries that count -/

variable {entries others : Entries}

/-- **Only the values under the keys count.** -/
theorem ofEntries_congr
    (same : ∀ key : Key, Yaml.Value.get? key.text entries = Yaml.Value.get? key.text others) :
    Metadata.ofEntries entries = Metadata.ofEntries others := by
  have flags : ∀ key, readFlag key entries = readFlag key others := fun key => by
    rw [readFlag, readFlag, same key]
  have options : ∀ key, readOption key entries = readOption key others := fun key => by
    rw [readOption, readOption, same key]
  have choices : readChoices entries = readChoices others := by
    rw [readChoices, readChoices, same .choices]
  simp only [Metadata.ofEntries, flags, options, choices]

theorem get?_eq_some_iff_mem_recognised (distinct : Yaml.DistinctKeys entries) (key : Key)
    (value : Yaml.Value) :
    Yaml.Value.get? key.text entries = some value ↔
      (.string key.text, value) ∈ entries.filter isRecognised := by
  rw [Yaml.Value.get?_eq_some_iff distinct, List.mem_filter, isRecognised_text,
    and_iff_left rfl]

/-- **The place of an entry does not count**, nor do entries under other keys. -/
theorem ofEntries_eq_of_perm (distinct : Yaml.DistinctKeys entries)
    (distinct' : Yaml.DistinctKeys others)
    (perm : (entries.filter isRecognised).Perm (others.filter isRecognised)) :
    Metadata.ofEntries entries = Metadata.ofEntries others := by
  refine ofEntries_congr fun key => Option.ext fun value => ?_
  rw [get?_eq_some_iff_mem_recognised distinct, get?_eq_some_iff_mem_recognised distinct',
    perm.mem_iff]

/-- **A metadata block is a mapping** whose keys are distinct. -/
theorem distinctKeys_of_readEntries {block : String}
    (read : readEntries block = .ok entries) : Yaml.DistinctKeys entries := by
  rw [readEntries] at read
  split at read
  · cases read
    exact .nil
  · split at read
    · next members value => 
      cases read
      exact Yaml.distinctKeys_of_read value
    · cases read
      exact .nil
    · cases read
    · cases read

/-! ### Values of no use -/

/-- The texts that are flags. -/
def flagSpellings : List String :=
  ["yes", "Yes", "YES", "on", "On", "ON", "no", "No", "NO", "off", "Off", "OFF"]

/-- The value is of no use under the key. -/
def Key.Rejects : Key → Yaml.Value → Prop
  | .option _, value =>
    (∃ items, value = .sequence items) ∨ (∃ members, value = .mapping members) ∨
      ∃ tag content, value = .tagged tag content
  | .choices, value => ∀ members, value ≠ .mapping members
  | _, value => (∀ flag, value ≠ .boolean flag) ∧ ∀ text ∈ flagSpellings, value ≠ .string text

/-- The value is taken for null under the key. -/
def Key.TakesForNull : Key → Yaml.Value → Prop
  | .option _, value => value.isNull = true
  | _, value => value = .null

theorem spelledFlag?_eq_none_iff {text : String} : spelledFlag? text = none ↔ text ∉ flagSpellings := by
  have spellings : flagSpellings = ["yes", "Yes", "YES", "on", "On", "ON"]
      ++ ["no", "No", "NO", "off", "Off", "OFF"] := rfl
  rw [spelledFlag?, spellings, List.mem_append, not_or]
  split
  · next on => exact ⟨nofun, fun neither => absurd (List.contains_iff_mem.1 on) neither.1⟩
  · next notOn =>
    rw [List.contains_iff_mem] at notOn
    split
    · next off => exact ⟨nofun, fun neither => absurd (List.contains_iff_mem.1 off) neither.2⟩
    · next notOff =>
      rw [List.contains_iff_mem] at notOff
      exact ⟨fun _ => ⟨notOn, notOff⟩, fun _ => rfl⟩

theorem flagOf?_eq_none_iff {value : Yaml.Value} : flagOf? value = none ↔ Key.start.Rejects value := by
  cases value with
  | string text =>
    rw [flagOf?, spelledFlag?_eq_none_iff]
    refine ⟨fun other => ⟨nofun, ?_⟩, fun ⟨_, others⟩ member => others text member rfl⟩
    rintro _ member ⟨⟩
    exact other member
  | _ => simp [flagOf?, Key.Rejects]

/-- An option takes every text, number and boolean. -/
theorem scalarText?_eq_none_iff {value : Yaml.Value} {concern : Concern} :
    scalarText? value = none ↔ value = .null ∨ (Key.option concern).Rejects value := by
  cases value <;> simp [scalarText?, Key.Rejects]

/-! ### Problems -/

/-- What is reported of a value that is of no use under the key. -/
def Key.problem : Key → Yaml.Value → Problem
  | .option concern, value => .notScalar (.option concern) (kindOf value)
  | .choices, value => .notMapping .choices (kindOf value)
  | key, value => .notBoolean key (kindOf value)

/-- The key that a problem is about. -/
def Problem.key : Problem → Key
  | .notBoolean key _ => key
  | .notScalar key _ => key
  | .notMapping key _ => key

@[simp] theorem Key.key_problem (key : Key) (value : Yaml.Value) : (key.problem value).key = key := by
  cases key <;> rfl

/-- A value is found under the key that is of no use and not null, and that is the problem. -/
def Key.Reports (key : Key) (null : Yaml.Value → Prop) (entries : Entries) (problem : Problem) : Prop :=
  ∃ value, Yaml.Value.get? key.text entries = some value ∧ ¬ null value ∧
    key.Rejects value ∧ problem = key.problem value

/-- What is found to be wrong under a key. -/
def problemAt? (entries : Entries) : Key → Option Problem
  | .choices => (readChoices entries).problem?
  | .option concern => (readOption (.option concern) entries).problem?
  | key => (readFlag key entries).problem?

theorem problem?_readFlag_eq_some_iff {key : Key} {problem : Problem} :
    (readFlag key entries).problem? = some problem ↔
      ∃ value, Yaml.Value.get? key.text entries = some value ∧ value ≠ .null ∧
        Key.start.Rejects value ∧ problem = .notBoolean key (kindOf value) := by
  rw [readFlag]
  cases found : Yaml.Value.get? key.text entries with
  | none => simp
  | some value =>
    simp only [Option.some.injEq, exists_eq_left', ← flagOf?_eq_none_iff]
    cases value with
    | null => simp
    | _ =>
      dsimp only
      split
      · next flag read => simp [read]
      · next read => simp [read, eq_comm]

theorem problem?_readOption_eq_some_iff {concern : Concern} {problem : Problem} :
    (readOption (.option concern) entries).problem? = some problem ↔
      (Key.option concern).Reports (Key.option concern).TakesForNull entries problem := by
  rw [readOption, Key.Reports]
  cases found : Yaml.Value.get? (Key.option concern).text entries with
  | none => simp
  | some value =>
    simp only [Option.some.injEq, exists_eq_left']
    by_cases null : value.isNull
    · simp [null, Key.TakesForNull]
    · have notNull : value ≠ .null := by
        rintro rfl
        exact null rfl
      have rejects : (Key.option concern).Rejects value ↔ scalarText? value = none := by
        rw [scalarText?_eq_none_iff, or_iff_right notNull]
      rw [rejects, if_neg null]
      split
      · next text read => simp [read]
      · next read => simp [read, null, Key.TakesForNull, Key.problem, eq_comm]

theorem problem?_readChoices_eq_some_iff {problem : Problem} :
    (readChoices entries).problem? = some problem ↔
      Key.choices.Reports Key.choices.TakesForNull entries problem := by
  rw [readChoices, Key.Reports]
  cases found : Yaml.Value.get? Key.choices.text entries with
  | none => simp
  | some value =>
    simp only [Option.some.injEq, exists_eq_left']
    cases value with
    | null => simp [Key.TakesForNull]
    | mapping members => simp [Key.Rejects]
    | _ => simp [Key.TakesForNull, Key.Rejects, Key.problem, eq_comm]

/-- **A value of no use is found to be wrong**, and nothing else is. -/
theorem problemAt?_eq_some_iff {key : Key} {problem : Problem} :
    problemAt? entries key = some problem ↔ key.Reports key.TakesForNull entries problem := by
  cases key with
  | option concern => exact problem?_readOption_eq_some_iff
  | choices => exact problem?_readChoices_eq_some_iff
  | start => exact problem?_readFlag_eq_some_iff
  | ending => exact problem?_readFlag_eq_some_iff
  | revisit => exact problem?_readFlag_eq_some_iff

theorem Key.Reports.key_eq {key : Key} {null : Yaml.Value → Prop} {problem : Problem}
    (reports : key.Reports null entries problem) : problem.key = key := by
  obtain ⟨value, -, -, -, rfl⟩ := reports
  exact key.key_problem value

/-- The problems are what is found to be wrong under the keys, one after the other. -/
theorem problems_ofEntries (entries : Entries) :
    (Metadata.ofEntries entries).problems = Key.all.filterMap (problemAt? entries) := rfl

/-- **Problems are in the order of the keys.** -/
theorem sublist_keys_of_problems (entries : Entries) :
    ((Metadata.ofEntries entries).problems.map Problem.key).Sublist Key.all := by
  have keys : (fun key => (problemAt? entries key).map Problem.key) =
      Option.guard fun key => (problemAt? entries key).isSome := by
    funext key
    cases found : problemAt? entries key with
    | none => simp [Option.guard, found]
    | some problem => simp [Option.guard, found, (problemAt?_eq_some_iff.1 found).key_eq]
  rw [problems_ofEntries, List.map_filterMap, keys, List.filterMap_eq_filter]
  exact List.filter_sublist

theorem nodup_keys_of_problems (entries : Entries) :
    ((Metadata.ofEntries entries).problems.map Problem.key).Nodup :=
  (sublist_keys_of_problems entries).nodup Key.nodup_all

theorem mem_problems_iff {problem : Problem} :
    problem ∈ (Metadata.ofEntries entries).problems ↔
      ∃ key : Key, key.Reports key.TakesForNull entries problem := by
  simp only [problems_ofEntries, List.mem_filterMap, problemAt?_eq_some_iff, Key.mem_all, true_and]

/-! ### What null is -/

/-- Of the values of no use that are found, those are null that are taken for null. -/
def NullAgrees (null : Yaml.Value → Prop) (entries : Entries) : Prop :=
  ∀ (key : Key) (value : Yaml.Value), Yaml.Value.get? key.text entries = some value →
    key.Rejects value → (null value ↔ key.TakesForNull value)

/-- A value of no use is to be reported unless it is null. -/
theorem exists_reports_iff {null : Key → Yaml.Value → Prop} {key : Key} {value : Yaml.Value}
    (found : Yaml.Value.get? key.text entries = some value) (rejects : key.Rejects value) :
    (∃ other : Key, other.Reports (null other) entries (key.problem value)) ↔ ¬ null key value := by
  constructor
  · rintro ⟨other, reports⟩
    obtain rfl : key = other := (key.key_problem value).symm.trans reports.key_eq
    obtain ⟨value', found', notNull, -, -⟩ := reports
    obtain rfl : value = value' := Option.some.inj (found.symm.trans found')
    exact notNull
  · exact fun notNull => ⟨key, value, found, notNull, rejects, rfl⟩

/-- **The values of no use that are not null are reported** if null is what the keys take for null. -/
theorem forall_mem_problems_iff {null : Yaml.Value → Prop} :
    (∀ problem, problem ∈ (Metadata.ofEntries entries).problems ↔
        ∃ key : Key, key.Reports null entries problem) ↔ NullAgrees null entries := by
  simp only [mem_problems_iff]
  constructor
  · intro same key value found rejects
    have reported : (∃ other : Key, other.Reports null entries (key.problem value)) ↔ ¬ null value :=
      exists_reports_iff found rejects
    have both := same (key.problem value)
    rw [exists_reports_iff found rejects, reported] at both
    exact (not_iff_not.1 both).symm
  · intro agree problem
    refine exists_congr fun key => exists_congr fun value => and_congr_right fun found => ?_
    constructor
    · exact fun ⟨notNull, rejects, same⟩ =>
        ⟨mt (agree key value found rejects).1 notNull, rejects, same⟩
    · exact fun ⟨notNull, rejects, same⟩ =>
        ⟨mt (agree key value found rejects).2 notNull, rejects, same⟩

/-- If null is one value only, the keys agree unless an option has a null behind a tag. -/
theorem nullAgrees_eq_null_iff :
    NullAgrees (· = .null) entries ↔
      ∀ concern tag content,
        Yaml.Value.get? (Key.option concern).text entries = some (.tagged tag content) →
          content.isNull = false := by
  constructor
  · intro agree concern tag content found
    have same := agree (.option concern) _ found (Or.inr (Or.inr ⟨tag, content, rfl⟩))
    exact Bool.eq_false_iff.2 fun null => absurd (same.2 null) nofun
  · intro plain key value found rejects
    cases key with
    | option concern =>
      rcases rejects with ⟨items, rfl⟩ | ⟨members, rfl⟩ | ⟨tag, content, rfl⟩
      · exact ⟨nofun, nofun⟩
      · exact ⟨nofun, nofun⟩
      · have notNull := plain concern tag content found
        exact ⟨nofun, fun null => absurd (notNull.symm.trans null) nofun⟩
    | choices => exact Iff.rfl
    | start => exact Iff.rfl
    | ending => exact Iff.rfl
    | revisit => exact Iff.rfl

theorem flag_rejects_tagged (tag : String) (content : Yaml.Value) :
    Key.start.Rejects (.tagged tag content) := flagOf?_eq_none_iff.1 rfl

theorem isNull_iff {value : Yaml.Value} :
    value.isNull = true ↔
      value = .null ∨ ∃ tag content, value = .tagged tag content ∧ content.isNull = true := by
  cases value <;> simp [Yaml.Value.isNull]

/-- If null is also null behind tags, the keys agree unless a flag or the choices have one. -/
theorem nullAgrees_isNull_iff :
    NullAgrees (·.isNull = true) entries ↔
      ∀ (key : Key) tag content, Yaml.Value.get? key.text entries = some (.tagged tag content) →
        content.isNull = true → ∃ concern, key = .option concern := by
  constructor
  · intro agree key tag content found null
    have clash : key.Rejects (.tagged tag content) → ¬ key.TakesForNull (.tagged tag content) → False :=
      fun rejects taken => taken ((agree key _ found rejects).1 null)
    cases key with
    | option concern => exact ⟨concern, rfl⟩
    | choices => exact (clash nofun nofun).elim
    | start => exact (clash (flag_rejects_tagged tag content) nofun).elim
    | ending => exact (clash (flag_rejects_tagged tag content) nofun).elim
    | revisit => exact (clash (flag_rejects_tagged tag content) nofun).elim
  · intro options key value found rejects
    have plain : (∀ concern, key ≠ .option concern) → (value.isNull = true ↔ value = .null) := by
      intro noOption
      rw [isNull_iff, or_iff_left]
      rintro ⟨tag, content, rfl, null⟩
      obtain ⟨concern, same⟩ := options key tag content found null
      exact noOption concern same
    cases key with
    | option concern => exact Iff.rfl
    | choices => exact plain nofun
    | start => exact plain nofun
    | ending => exact plain nofun
    | revisit => exact plain nofun

/-! ### Fields without a value -/

/-- The field of a key is empty. -/
def Metadata.IsEmptyAt (metadata : Metadata) : Key → Prop
  | .start => metadata.said.start? = none
  | .ending => metadata.said.ending? = none
  | .revisit => metadata.revisit? = none
  | .choices => metadata.choices = .empty
  | .option concern => metadata.style.get? concern = none

theorem value_readFlag_of_rejects {key : Key} {value : Yaml.Value}
    (found : Yaml.Value.get? key.text entries = some value) (rejects : Key.start.Rejects value) :
    (readFlag key entries).value = none := by
  rw [readFlag, found]
  cases value with
  | null => rfl
  | _ =>
    dsimp only
    rw [flagOf?_eq_none_iff.2 rejects]

theorem value_readOption_of_rejects {concern : Concern} {value : Yaml.Value}
    (found : Yaml.Value.get? (Key.option concern).text entries = some value)
    (rejects : (Key.option concern).Rejects value) :
    (readOption (.option concern) entries).value = none := by
  rw [readOption, found]
  dsimp only
  split
  · rfl
  · rw [scalarText?_eq_none_iff.2 (.inr rejects)]

theorem value_readChoices_of_rejects {value : Yaml.Value}
    (found : Yaml.Value.get? Key.choices.text entries = some value)
    (rejects : Key.choices.Rejects value) : (readChoices entries).value = .empty := by
  rw [readChoices, found]
  cases value with
  | mapping members => exact absurd rfl (rejects members)
  | _ => rfl

/-- **A value of no use leaves the field of its key empty**, whether it is reported or not. -/
theorem isEmptyAt_of_rejects {key : Key} {value : Yaml.Value}
    (found : Yaml.Value.get? key.text entries = some value) (rejects : key.Rejects value) :
    (Metadata.ofEntries entries).IsEmptyAt key := by
  cases key with
  | option concern =>
    exact (Style.get?_ofConcerns _ concern).trans (value_readOption_of_rejects found rejects)
  | choices => exact value_readChoices_of_rejects found rejects
  | start => exact value_readFlag_of_rejects found rejects
  | ending => exact value_readFlag_of_rejects found rejects
  | revisit => exact value_readFlag_of_rejects found rejects

/-! ### Choices -/

/-- The entry is a choice: its label and its target are texts, and not empty. -/
structure Offers (entry : Yaml.Value × Yaml.Value) (label target : String) : Prop where
  label_eq : scalarText? entry.1 = some label
  target_eq : scalarText? entry.2 = some target
  label_ne : label ≠ ""
  target_ne : target ≠ ""

theorem choiceOf?_eq_some_iff {entry : Yaml.Value × Yaml.Value} {choice : String × String} :
    choiceOf? entry = some choice ↔ Offers entry choice.1 choice.2 := by
  constructor
  · intro found
    obtain ⟨label, label_eq, found⟩ := Option.bind_eq_some_iff.1 found
    obtain ⟨target, target_eq, found⟩ := Option.bind_eq_some_iff.1 found
    split at found
    · cases found
    · next full =>
      obtain rfl := Option.some.inj found
      simp only [Bool.or_eq_true, String.isEmpty_iff, not_or] at full
      exact ⟨label_eq, target_eq, full.1, full.2⟩
  · rintro ⟨label_eq, target_eq, label_ne, target_ne⟩
    simp [choiceOf?, label_eq, target_eq, label_ne, target_ne]

/-- The last of the entries that are choices under the label has the target. -/
def LastOffers (members : Entries) (label target : String) : Prop :=
  ∃ front entry back, members = front ++ entry :: back ∧ Offers entry label target ∧
    ∀ later ∈ back, ∀ other, ¬ Offers later label other

/-- **Of the choices under one label** the last is in the table. -/
theorem find?_ofList_choices_iff {members : Entries} {label target : String} :
    (NameTable.ofList (members.filterMap choiceOf?)).find? label = some target ↔
      LastOffers members label target := by
  rw [NameTable.find?_ofList_eq_some_iff]
  constructor
  · rintro ⟨front, back, split, others⟩
    obtain ⟨before, after, rfl, -, split⟩ := List.filterMap_eq_append_iff.1 split
    obtain ⟨skipped, entry, behind, rfl, skips, offers, rfl⟩ := List.filterMap_eq_cons_iff.1 split
    refine ⟨before ++ skipped, entry, behind, by simp, choiceOf?_eq_some_iff.1 offers, ?_⟩
    intro later member other offered
    exact others (label, other)
      (List.mem_filterMap.2 ⟨later, member, choiceOf?_eq_some_iff.2 offered⟩) rfl
  · rintro ⟨front, entry, back, rfl, offers, others⟩
    have choice : choiceOf? entry = some (label, target) := choiceOf?_eq_some_iff.2 offers
    refine ⟨front.filterMap choiceOf?, back.filterMap choiceOf?, ?_, ?_⟩
    · rw [List.filterMap_append, List.filterMap_cons_some choice]
    · rintro ⟨name, other⟩ member rfl
      obtain ⟨later, behind, offered⟩ := List.mem_filterMap.1 member
      exact others later behind other (choiceOf?_eq_some_iff.1 offered)

/-- **A choice is read** if the value under the key of the choices is a mapping that has it last. -/
theorem find?_choices_iff {label target : String} :
    (Metadata.ofEntries entries).choices.find? label = some target ↔
      ∃ members, Yaml.Value.get? Key.choices.text entries = some (.mapping members) ∧
        LastOffers members label target := by
  change (readChoices entries).value.find? label = some target ↔ _
  rw [readChoices]
  cases found : Yaml.Value.get? Key.choices.text entries with
  | none => simp
  | some value =>
    cases value with
    | mapping members => simp [find?_ofList_choices_iff]
    | _ => simp

/-! ### The whole block -/

/-- **What metadata says** depends on the values under the ten keys alone, so that of a mapping, which is
read with distinct keys, neither the other entries nor the places of entries count.  Problems are reported in the
order of the keys, one for each key whose value is of no use and not taken for null, and the field of a key
whose value is of no use is empty.  Of the choices under one label the last is read.

So every value of no use is reported that is not null, unless there is a null behind a tag: under an option
if that is no null, and under a flag or the choices if it is one. -/
theorem metadata_exact (entries : Entries) :
    (∀ block, readEntries block = .ok entries → Yaml.DistinctKeys entries) ∧
    (∀ others : Entries,
      (∀ key : Key, Yaml.Value.get? key.text entries = Yaml.Value.get? key.text others) →
        Metadata.ofEntries entries = Metadata.ofEntries others) ∧
    (∀ others : Entries, Yaml.DistinctKeys entries → Yaml.DistinctKeys others →
      (entries.filter isRecognised).Perm (others.filter isRecognised) →
        Metadata.ofEntries entries = Metadata.ofEntries others) ∧
    ((Metadata.ofEntries entries).problems.map Problem.key).Sublist Key.all ∧
    ((Metadata.ofEntries entries).problems.map Problem.key).Nodup ∧
    (∀ problem, problem ∈ (Metadata.ofEntries entries).problems ↔
      ∃ key : Key, key.Reports key.TakesForNull entries problem) ∧
    ((∀ problem, problem ∈ (Metadata.ofEntries entries).problems ↔
        ∃ key : Key, key.Reports (· = .null) entries problem) ↔
      ∀ concern tag content,
        Yaml.Value.get? (Key.option concern).text entries = some (.tagged tag content) →
          content.isNull = false) ∧
    ((∀ problem, problem ∈ (Metadata.ofEntries entries).problems ↔
        ∃ key : Key, key.Reports (·.isNull = true) entries problem) ↔
      ∀ (key : Key) tag content, Yaml.Value.get? key.text entries = some (.tagged tag content) →
        content.isNull = true → ∃ concern, key = .option concern) ∧
    (∀ (key : Key) value, Yaml.Value.get? key.text entries = some value → key.Rejects value →
      (Metadata.ofEntries entries).IsEmptyAt key) ∧
    (∀ label target, (Metadata.ofEntries entries).choices.find? label = some target ↔
      ∃ members, Yaml.Value.get? Key.choices.text entries = some (.mapping members) ∧
        LastOffers members label target) := by
  refine ⟨fun _ => distinctKeys_of_readEntries, fun _ => ofEntries_congr,
    fun _ => ofEntries_eq_of_perm, sublist_keys_of_problems entries, nodup_keys_of_problems entries,
    fun _ => mem_problems_iff, ?_, ?_, fun _ _ => isEmptyAt_of_rejects, fun _ _ => find?_choices_iff⟩
  · exact forall_mem_problems_iff.trans nullAgrees_eq_null_iff
  · exact forall_mem_problems_iff.trans nullAgrees_isNull_iff

/-- A mapping with a flag and an option that are of no use, and with choices: two of them are under one
label, one has an empty label, and one has no target. -/
def maybeStart : Entries :=
  [(.string "title", .null),
   (.string "choices", .mapping [(.number (.integer 1), .string "east"), (.string "1", .string "west"),
     (.string "", .string "south"), (.boolean true, .null)]),
   (.string "pace", .sequence []),
   (.string "start", .string "maybe")]

theorem metadata_maybeStart :
    (∃ entries, readEntries "pace: slow" = .ok entries ∧ Yaml.DistinctKeys entries) ∧
      Yaml.DistinctKeys maybeStart ∧
      Metadata.ofEntries maybeStart = Metadata.ofEntries ((.string "author", .null) :: maybeStart) ∧
      Metadata.ofEntries maybeStart = Metadata.ofEntries maybeStart.reverse ∧
      Problem.notBoolean .start "string" ∈ (Metadata.ofEntries maybeStart).problems ∧
      (Metadata.ofEntries maybeStart).IsEmptyAt .start ∧
      (Metadata.ofEntries maybeStart).choices.find? "1" = some "west" := by
  obtain ⟨-, byKeys, byPlace, -, -, reported, -, -, empty, choices⟩ := metadata_exact maybeStart
  have readable : (readEntries "pace: slow").toOption.isSome = true := by decide +kernel
  have distinct : Yaml.DistinctKeys maybeStart := by
    simp [Yaml.DistinctKeys, maybeStart]
  have distinct' : Yaml.DistinctKeys maybeStart.reverse := by
    simp [Yaml.DistinctKeys, maybeStart]
  have rejects : Key.start.Rejects (.string "maybe") := flagOf?_eq_none_iff.1 (by decide)
  have notNull : ¬ Key.start.TakesForNull (.string "maybe") := by simp [Key.TakesForNull]
  refine ⟨?_, distinct, byKeys _ fun key => ?_, byPlace _ distinct distinct' ?_,
    (reported _).2 ⟨.start, .string "maybe", rfl, notNull, rejects, rfl⟩, empty .start _ rfl rejects,
    (choices "1" "west").2 ⟨_, rfl, ?_⟩⟩
  · cases read : readEntries "pace: slow" with
    | error cause => simp [read, Except.toOption] at readable
    | ok entries => exact ⟨entries, rfl, (metadata_exact entries).1 _ read⟩
  · have other : key.text ≠ "author" := by
      cases key with
      | option concern => cases concern <;> decide
      | _ => decide
    conv_rhs => rw [Yaml.Value.get?, if_neg other.symm]
  · rw [List.filter_reverse]
    exact (List.reverse_perm _).symm
  · refine ⟨[(.number (.integer 1), .string "east")], (.string "1", .string "west"), _, rfl,
      ⟨rfl, rfl, by decide, by decide⟩, ?_⟩
    rintro later behind other ⟨label, target, -, -⟩
    rcases List.mem_cons.1 behind with rfl | behind
    · simp [scalarText?] at label
    · obtain rfl := List.mem_singleton.1 behind
      cases target

/-- **A null behind a tag** is reported of a flag and of the choices, but not of an option: whether such a
null is taken for null or for a value of no use, it is not the same for all keys. -/
theorem reported_taggedNull :
    (¬ ∀ (entries : Entries) (key : Key) (value : Yaml.Value), Yaml.DistinctKeys entries →
      Yaml.Value.get? key.text entries = some value → value ≠ .null → key.Rejects value →
        ∃ problem ∈ (Metadata.ofEntries entries).problems, problem.key = key) ∧
    (¬ ∀ (entries : Entries) (key : Key) (value : Yaml.Value), Yaml.DistinctKeys entries →
      Yaml.Value.get? key.text entries = some value → value.isNull = true →
        ∀ problem ∈ (Metadata.ofEntries entries).problems, problem.key ≠ key) ∧
    (Metadata.ofText "pace: !x null").toOption.map (·.problems) = some [] ∧
    (Metadata.ofText "start: !x null").toOption.map (·.problems) =
      some [.notBoolean .start "tagged value"] ∧
    (Metadata.ofText "choices: !x null").toOption.map (·.problems) =
      some [.notMapping .choices "tagged value"] := by
  refine ⟨fun claimed => ?_, fun claimed => ?_, by decide +kernel, by decide +kernel, by decide +kernel⟩
  · obtain ⟨problem, member, -⟩ := claimed [(.string "pace", .tagged "x" .null)] (.option .pace) _
      (List.pairwise_singleton _ _) rfl nofun (Or.inr (Or.inr ⟨_, _, rfl⟩))
    cases member
  · exact claimed [(.string "start", .tagged "x" .null)] .start _ (List.pairwise_singleton _ _) rfl rfl
      (.notBoolean .start "tagged value") (List.mem_singleton.2 rfl) rfl

end Document

end Gamebook
