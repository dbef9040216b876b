import Copyedit.Proofs.Outcome
import Copyedit.Proofs.Sequence
import Copyedit.Rules.Replacement
import Mathlib.Data.List.Nodup

/-!
# What replacements are offered

The casing of a word is one of three (`Text.casing`), and the listed replacements are offered in it
(`replacementsFor_eq`).  A word is looked up in lower case, so that all three casings of a wrong word lead to
the same replacements, while two of those may be the same in one casing and not in another; and a replacement
that leads back to the wrong word in lower case is that word in some casing.

So whether a rule only ever offers other words, and no word twice, is a matter of its table alone: of three
casings for each replacement (`IsClear`).  The main statement `findings_suggestOthers` says that the rules
whose tables are clear are those that do.  The table of "English" for "english" is not: its rule finds fault
with "English" and offers it again (`exists_findings_same`).
-/

namespace Copyedit

/-! ### Casings -/

/-- How the case of a word matters for what replaces it. -/
inductive Casing where
  /-- It does not start with a capital. -/
  | plain
  /-- It starts with a capital and has small letters. -/
  | capitalized
  /-- It starts with a capital and has no small letter. -/
  | upper
  deriving DecidableEq, Repr

/-- The casing of a word. -/
def Text.casing (w : Text) : Casing :=
  if w.startsUpper then (if w.isAllUpper then .upper else .capitalized) else .plain

/-- A text in a casing. -/
def Locale.inCasing (l : Locale) : Casing → Text → Text
  | .plain, t => t
  | .capitalized, t => l.capitalize t
  | .upper, t => l.upper t

theorem Locale.convert_preserve (l : Locale) (t w : Text) :
    l.convert t .preserve (some w) = l.inCasing w.casing t := by
  unfold convert Text.casing
  dsimp only
  split
  · split <;> rfl
  · rfl

namespace ReplacementRule

/-- The form under which a word is looked up. -/
def lookupForm (r : ReplacementRule) (w : Text) : Text := if r.caseSensitive then w else r.locale.lower w

/-- A replacement as it is offered for words in a casing. -/
def offered (r : ReplacementRule) (c : Casing) (s : Text) : Text :=
  if r.caseSensitive then s else r.locale.inCasing c s

/-- The replacements for a word are those listed for it, in its casing. -/
theorem replacementsFor_eq (r : ReplacementRule) (w : Text) :
    r.replacementsFor w = ((r.forms.lookup (r.lookupForm w)).getD []).map (r.offered w.casing) := by
  unfold replacementsFor lookupForm offered
  split
  · exact (List.map_id' _).symm
  · simp only [Locale.convert_preserve]

/-! ### Tables -/

/-- No word is offered in place of itself, and none twice in place of another. -/
structure IsClear (r : ReplacementRule) : Prop where
  /-- In no casing is a replacement a word that it is listed for. -/
  apart : ∀ e ∈ r.forms, ∀ s ∈ e.2, ∀ c, r.lookupForm (r.offered c s) = e.1 → (r.offered c s).casing ≠ c
  /-- In no casing of a word that they are listed for are two replacements the same. -/
  distinct : ∀ e ∈ r.forms, ∀ c, (∃ w, r.lookupForm w = e.1 ∧ w.casing = c) → (e.2.map (r.offered c)).Nodup

/-- A table is clear if all replacements are apart in each casing. -/
theorem isClear_of_forall {r : ReplacementRule}
    (h : ∀ e ∈ r.forms, ∀ c ∈ [Casing.plain, .capitalized, .upper],
      (e.2.map (r.offered c)).Nodup ∧ ∀ s ∈ e.2, r.lookupForm (r.offered c s) ≠ e.1) : r.IsClear where
  apart e he s hs c hform := by
    have hc : c ∈ [Casing.plain, .capitalized, .upper] := by cases c <;> decide
    exact absurd hform ((h e he c hc).2 s hs)
  distinct e he c _ := by
    have hc : c ∈ [Casing.plain, .capitalized, .upper] := by cases c <;> decide
    exact (h e he c hc).1

/-- A word with replacements passes, and stays with those that are not empty. -/
theorem checkEntry_ok_iff {rule : String} {e e' : Text × List Text} :
    checkEntry rule e = .ok e' ↔
      e.1 ≠ [] ∧ e.2.filter (!·.isEmpty) ≠ [] ∧ e' = (e.1, e.2.filter (!·.isEmpty)) := by
  unfold checkEntry
  dsimp only
  split
  · rename_i hempty
    rw [Bool.or_eq_true, List.isEmpty_iff, List.isEmpty_iff] at hempty
    simp only [reduceCtorEq, false_iff]
    rintro ⟨hkey, hlisted, -⟩
    exact hempty.elim hkey hlisted
  · rename_i hnot
    rw [Bool.or_eq_true, not_or, List.isEmpty_iff, List.isEmpty_iff] at hnot
    rw [Except.ok.injEq, eq_comm]
    exact ⟨fun h => ⟨hnot.1, hnot.2, h⟩, fun h => h.2.2⟩

/-- No form is listed twice. -/
theorem nodup_forms {table : ReplacementTable} {o : Options} {r : ReplacementRule}
    (h : make table o = .ok r) : (r.forms.map (·.1)).Nodup := by
  obtain ⟨checked, hchecked, rfl⟩ := map_ok_iff.mp h
  dsimp only
  split
  · have hsame : List.Forall₂ (fun e' e : Text × List Text => e'.1 = e.1) checked (tableOf table) :=
      (mapM_ok_iff.mp hchecked).flip.imp fun _ _ hentry =>
        congrArg Prod.fst (checkEntry_ok_iff.mp hentry).2.2
    have hkeys : checked.map (·.1) = (tableOf table).map (·.1) :=
      List.forall₂_eq_eq_eq ▸ List.forall₂_map_left_iff.mpr (List.forall₂_map_right_iff.mpr hsame)
    rw [hkeys]
    exact nodup_keys_tableOf table
  · exact nodup_keys_tableOf _

/-- The rules that only offer other words, and none twice, are those with clear tables. -/
theorem isClear_iff {table : ReplacementTable} {o : Options} {r : ReplacementRule}
    (h : make table o = .ok r) :
    r.IsClear ↔ ∀ w, (r.replacementsFor w).Nodup ∧ w ∉ r.replacementsFor w := by
  constructor
  · intro hclear w
    rw [replacementsFor_eq]
    cases hlookup : r.forms.lookup (r.lookupForm w) with
    | none => exact ⟨List.nodup_nil, List.not_mem_nil⟩
    | some listed =>
      have hmem := mem_of_lookup_eq_some hlookup
      refine ⟨hclear.distinct _ hmem _ ⟨w, rfl, rfl⟩, fun hw => ?_⟩
      obtain ⟨s, hs, hoffered⟩ := List.mem_map.mp hw
      exact hclear.apart _ hmem s hs w.casing (by rw [hoffered]) (by rw [hoffered])
  · intro hall
    have hlookup : ∀ e ∈ r.forms, ∀ w, r.lookupForm w = e.1 →
        r.replacementsFor w = e.2.map (r.offered w.casing) := by
      rintro ⟨form, listed⟩ he w rfl
      rw [replacementsFor_eq, lookup_of_mem_of_nodup (nodup_forms h) he, Option.getD_some]
    constructor
    · intro e he s hs c hform hcasing
      refine (hall (r.offered c s)).2 ?_
      rw [hlookup e he _ hform, hcasing]
      exact List.mem_map_of_mem hs
    · rintro e he c ⟨w, hform, rfl⟩
      rw [← hlookup e he w hform]
      exact (hall w).1

end ReplacementRule

/-! ### Findings -/

/-- A finding reports a word and suggests only other words, and none twice. -/
def Finding.SuggestsOthers (f : Finding) (tokens : List Token) : Prop :=
  ∃ (i : Nat) (k : Token) (w : Text), f.firstToken = i ∧ tokens[i]? = some k ∧ k.text = some w ∧
    f.suggestions.Nodup ∧ w ∉ f.suggestions

namespace ReplacementRule

variable {r : ReplacementRule}

/-- A finding suggests what replaces the word that it reports. -/
theorem suggestions_of_tokenFindings {k : Token} {i : Nat} {found : List Finding}
    (h : r.tokenFindings k i = .ok found) : ∀ f ∈ found,
      ∃ w, k.text = some w ∧ f.firstToken = i ∧ f.suggestions = r.replacementsFor w := by
  unfold tokenFindings at h
  split at h
  · obtain rfl := Except.ok.inj h
    exact List.forall_mem_nil _
  · rename_i w hw
    dsimp only at h
    split at h
    · obtain rfl := Except.ok.inj h
      exact List.forall_mem_nil _
    · obtain ⟨message, -, h⟩ := bind_ok_iff.mp h
      obtain ⟨stop, -, rfl⟩ := map_ok_iff.mp h
      exact List.forall_mem_singleton.mpr ⟨w, hw, rfl, rfl⟩

/-- The message holds no other fields than it may. -/
def CanTell (r : ReplacementRule) : Prop :=
  ∀ word suggestions, ∃ message, fill [("word", word), ("suggestions", suggestions)] r.message = .ok message

/-- A sentence of one word. -/
def oneWord (w : Text) : Sentence := { text := w, tokens := [{ text := some w }] }

/-- A word with replacements is reported where it stands alone. -/
theorem exists_findings_oneWord (hmessage : r.CanTell) {w : Text} (hne : r.replacementsFor w ≠ []) :
    ∃ f, r.findings (oneWord w) = .ok [f] ∧ f.firstToken = 0 ∧ f.suggestions = r.replacementsFor w := by
  obtain ⟨message, hfill⟩ := hmessage w (listed (r.replacementsFor w))
  obtain ⟨f, htoken, hfirst, hsuggestions⟩ : ∃ f, r.tokenFindings { text := some w } 0 = .ok [f] ∧
      f.firstToken = 0 ∧ f.suggestions = r.replacementsFor w := by
    unfold tokenFindings
    dsimp only
    rw [if_neg (by rwa [List.isEmpty_iff]), hfill]
    exact ⟨_, rfl, rfl, rfl⟩
  refine ⟨f, ?_, hfirst, hsuggestions⟩
  unfold findings oneWord
  rw [List.zipIdx_cons, List.zipIdx_nil, List.mapM_cons]
  dsimp only
  rw [htoken]
  rfl

theorem suggestsOthers_oneWord_iff {f : Finding} {w : Text} (hfirst : f.firstToken = 0) :
    f.SuggestsOthers (oneWord w).tokens ↔ f.suggestions.Nodup ∧ w ∉ f.suggestions := by
  constructor
  · rintro ⟨i, k, w', hi, hk, hw', h⟩
    obtain rfl : i = 0 := by omega
    obtain rfl := Option.some.inj hk
    obtain rfl := Option.some.inj hw'
    exact h
  · exact fun h => ⟨0, _, w, hfirst, rfl, rfl, h⟩

/-- **Other words.**  A rule whose table is clear suggests only other words for the words that it reports,
and none twice.  A rule whose table is not clear does not, unless its message cannot be filled. -/
theorem findings_suggestOthers {table : ReplacementTable} {o : Options} (h : make table o = .ok r) :
    (r.IsClear → ∀ s found, r.findings s = .ok found → ∀ f ∈ found, f.SuggestsOthers s.tokens) ∧
    (r.CanTell → (∀ s found, r.findings s = .ok found → ∀ f ∈ found, f.SuggestsOthers s.tokens) →
      r.IsClear) := by
  constructor
  · intro hclear s found hfound
    refine forall_mem_of_mapM_flatten (fun ⟨k, i⟩ hk part hpart f hf => ?_) hfound
    obtain ⟨w, hw, hfirst, hsuggestions⟩ := suggestions_of_tokenFindings hpart f hf
    obtain ⟨hnodup, hnot⟩ := (isClear_iff h).mp hclear w
    rw [← hsuggestions] at hnodup hnot
    exact ⟨i, k, w, hfirst, List.mem_zipIdx_iff_getElem?.mp hk, hw, hnodup, hnot⟩
  · intro hmessage hall
    refine (isClear_iff h).mpr fun w => ?_
    by_cases hne : r.replacementsFor w = []
    · rw [hne]
      exact ⟨List.nodup_nil, List.not_mem_nil⟩
    · obtain ⟨f, hfound, hfirst, hsuggestions⟩ := exists_findings_oneWord hmessage hne
      have hothers := hall _ _ hfound f List.mem_cons_self
      rwa [suggestsOthers_oneWord_iff hfirst, hsuggestions] at hothers

/-! ### Two rules -/

section Examples

theorem canTell_standardMessage (h : r.message = standardMessage.toList) : r.CanTell := by
  intro word suggestions
  rw [h]
  exact ⟨_, rfl⟩

/-- The rule of a table that has its wrong words in lower case, with all settings as they are given. -/
def ofLowerTable (table : ReplacementTable) : ReplacementRule where
  id := "SIMPLE_REPLACE"
  description := "Words with a listed replacement"
  message := standardMessage.toList
  shortMessage := "Wrong word"
  caseSensitive := false
  locale := .english
  table
  forms := table

/-- A wrong word with two replacements. -/
def wordTable : ReplacementTable := [("irregardless".toList, ["regardless".toList, "irrespective".toList])]

/-- A name that is wrong in lower case. -/
def nameTable : ReplacementTable := [("english".toList, ["English".toList])]

theorem make_wordTable : make wordTable = .ok (ofLowerTable wordTable) := by rfl

theorem make_nameTable : make nameTable = .ok (ofLowerTable nameTable) := by rfl

theorem isClear_wordTable : (ofLowerTable wordTable).IsClear := isClear_of_forall (by decide +kernel)

theorem not_isClear_nameTable : ¬ (ofLowerTable nameTable).IsClear := by
  intro h
  exact h.apart _ List.mem_cons_self _ List.mem_cons_self .capitalized (by decide +kernel) (by decide +kernel)

theorem replacementsFor_irregardless : (ofLowerTable wordTable).replacementsFor "IRREGARDLESS".toList =
    ["REGARDLESS".toList, "IRRESPECTIVE".toList] := by decide +kernel

theorem replacementsFor_english : (ofLowerTable nameTable).replacementsFor "English".toList =
    ["English".toList] := by decide +kernel

/-- The rule of the one table suggests two other words; that of the other table does not always suggest
others. -/
theorem findings_oneWord :
    (make wordTable = .ok (ofLowerTable wordTable) ∧ (ofLowerTable wordTable).IsClear ∧
      ∃ f, (ofLowerTable wordTable).findings (oneWord "IRREGARDLESS".toList) = .ok [f] ∧
        f.suggestions = ["REGARDLESS".toList, "IRRESPECTIVE".toList] ∧
        f.SuggestsOthers (oneWord "IRREGARDLESS".toList).tokens) ∧
    make nameTable = .ok (ofLowerTable nameTable) ∧ (ofLowerTable nameTable).CanTell ∧
      ¬ ∀ s found, (ofLowerTable nameTable).findings s = .ok found →
        ∀ f ∈ found, f.SuggestsOthers s.tokens := by
  have hclear := (findings_suggestOthers make_wordTable).1 isClear_wordTable
  have hunclear := (findings_suggestOthers make_nameTable).2 (canTell_standardMessage rfl)
  obtain ⟨f, hfound, -, hsuggestions⟩ := exists_findings_oneWord (r := ofLowerTable wordTable)
    (w := "IRREGARDLESS".toList) (canTell_standardMessage rfl) (by rw [replacementsFor_irregardless]; simp)
  rw [replacementsFor_irregardless] at hsuggestions
  exact ⟨⟨make_wordTable, isClear_wordTable, f, hfound, hsuggestions,
      hclear _ _ hfound f (List.mem_singleton_self f)⟩,
    make_nameTable, canTell_standardMessage rfl, fun h => not_isClear_nameTable (hunclear h)⟩

/-- A rule may find fault with a word and suggest the same word. -/
theorem exists_findings_same : ∃ (table : ReplacementTable) (o : Options) (r : ReplacementRule) (w : Text)
    (f : Finding), make table o = .ok r ∧ r.findings (oneWord w) = .ok [f] ∧ f.suggestions = [w] ∧
      ¬ f.SuggestsOthers (oneWord w).tokens := by
  obtain ⟨f, hfound, hfirst, hsuggestions⟩ := exists_findings_oneWord (r := ofLowerTable nameTable)
    (w := "English".toList) (canTell_standardMessage rfl) (by rw [replacementsFor_english]; simp)
  rw [replacementsFor_english] at hsuggestions
  refine ⟨nameTable, {}, ofLowerTable nameTable, "English".toList, f, make_nameTable, hfound, hsuggestions, ?_⟩
  intro hothers
  obtain ⟨-, hnot⟩ := (suggestsOthers_oneWord_iff hfirst).mp hothers
  exact hnot (hsuggestions ▸ List.mem_singleton_self _)

end Examples

end ReplacementRule

end Copyedit
