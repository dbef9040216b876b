import Copyedit.Proofs.Casing
import Copyedit.Proofs.Spelling.EditScript

/-!
# Scripts edit by edit

A script falls into single edits, each of which puts in letters of its result alone
(`EditScript.exists_singleEdit`).  So whatever makes all texts one edit away from a text, and does it
again, makes all that two edits can.

Lower case never leads away from a text that is its own lower case: if it leaves the length of a text
alone, then a script that makes such a text from it serves for its lower case as well
(`EditScript.lower`).  Each character turns into one character there, and what the script keeps is a
character that stays as it is.
-/

namespace Copyedit

/-! ### Single edits -/

/-- A text is made from another by deleting a character, or by putting in a letter, beside the characters
or in the place of one.  A letter may take its own place. -/
inductive SingleEdit (letters : List Char) : Text → Text → Prop where
  /-- A character is deleted. -/
  | delete (c : Char) (t : Text) : SingleEdit letters (c :: t) t
  /-- A letter is inserted. -/
  | insert {c : Char} (hc : c ∈ letters) (t : Text) : SingleEdit letters t (c :: t)
  /-- A letter takes the place of a character. -/
  | replace (c : Char) {d : Char} (hd : d ∈ letters) (t : Text) :
      SingleEdit letters (c :: t) (d :: t)
  /-- A character is passed by. -/
  | pass (c : Char) {t u : Text} : SingleEdit letters t u → SingleEdit letters (c :: t) (c :: u)

/-- A text that is not empty is made from itself. -/
theorem SingleEdit.refl {letters : List Char} {t : Text} (ht : t ≠ []) (h : ∀ c ∈ t, c ∈ letters) :
    SingleEdit letters t t := by
  cases t with
  | nil => exact absurd rfl ht
  | cons c t => exact replace c (h c List.mem_cons_self) t

/-- A single edit is a script that costs one. -/
theorem SingleEdit.editScript {letters : List Char} {t u : Text} (h : SingleEdit letters t u) :
    EditScript t u 1 := by
  induction h with
  | delete c t => exact .delete c (.refl t)
  | insert _ t => exact .insert _ (.refl t)
  | replace c _ t => exact .substitute c _ (.refl t)
  | pass c _ ih => exact .keep c ih

namespace EditScript

variable {a b : Text} {n : Nat}

/-- A script that costs something does a single edit first. -/
theorem exists_singleEdit {letters : List Char} (h : EditScript a b n) (hn : n ≠ 0)
    (hletters : ∀ c ∈ b, c ∈ letters) :
    ∃ m, SingleEdit letters a m ∧ EditScript m b (n - 1) := by
  induction h with
  | nil => exact absurd rfl hn
  | keep c h ih =>
    -- the edit is further on
    obtain ⟨m, hedit, hrest⟩ := ih hn (List.forall_mem_cons.mp hletters).2
    exact ⟨c :: m, .pass c hedit, .keep c hrest⟩
  | delete c h => exact ⟨_, .delete c _, h⟩
  | insert c h => exact ⟨_, .insert (hletters c List.mem_cons_self) _, .keep c h⟩
  | substitute c d h => exact ⟨_, .replace c (hletters d List.mem_cons_self) _, .keep d h⟩

/-- A script serves for another text of the same length, if the characters that it can keep stand there
too. -/
theorem of_forall₂ {R : Char → Char → Prop} {a' : Text} (h : EditScript a b n)
    (hR : List.Forall₂ R a a') (hkeep : ∀ c ∈ b, ∀ d, R c d → d = c) : EditScript a' b n := by
  induction h generalizing a' with
  | nil =>
    rw [List.forall₂_nil_left_iff.mp hR]
    exact nil
  | keep c h ih =>
    obtain ⟨d, rest, hd, hrest, rfl⟩ := List.forall₂_cons_left_iff.mp hR
    obtain ⟨hc, hkeep⟩ := List.forall_mem_cons.mp hkeep
    rw [hc d hd]
    exact keep c (ih hrest hkeep)
  | delete c h ih =>
    obtain ⟨d, rest, -, hrest, rfl⟩ := List.forall₂_cons_left_iff.mp hR
    exact delete d (ih hrest hkeep)
  | insert c h ih => exact insert c (ih hR (List.forall_mem_cons.mp hkeep).2)
  | substitute c d h ih =>
    obtain ⟨c', rest, -, hrest, rfl⟩ := List.forall₂_cons_left_iff.mp hR
    exact substitute c' d (ih hrest (List.forall_mem_cons.mp hkeep).2)

end EditScript

/-! ### Lower case -/

namespace Text

/-- Whether a character may become another in lower case; a capital sigma has two small forms. -/
def LowersTo (c d : Char) : Prop := d = lowerChar c ∨ c = 'Σ' ∧ d = 'ς'

/-- Lower case makes no text shorter, and one that stays as long goes letter by letter. -/
theorem length_lowerAfter (seen t : Text) :
    t.length ≤ (lowerAfter seen t).length ∧
      ((lowerAfter seen t).length = t.length → List.Forall₂ LowersTo t (lowerAfter seen t)) := by
  induction t generalizing seen with
  | nil => exact ⟨Nat.le_refl _, fun _ => .nil⟩
  | cons c t ih =>
    obtain ⟨hle, hrest⟩ := ih (c :: seen)
    rw [lowerAfter]
    by_cases hsigma : c = 'Σ'
    · subst hsigma
      rw [if_pos rfl]
      refine ⟨Nat.succ_le_succ hle, fun hlength => .cons ?_ (hrest (Nat.succ.inj hlength))⟩
      split_ifs
      · exact .inr ⟨rfl, rfl⟩
      · exact .inl (by decide)
    · rw [if_neg hsigma, lowerOf]
      split_ifs with hdotted
      · simp only [List.cons_append, List.nil_append, List.length_cons]
        exact ⟨by omega, fun hlength => by omega⟩
      · exact ⟨Nat.succ_le_succ hle, fun hlength => .cons (.inl rfl) (hrest (Nat.succ.inj hlength))⟩

theorem forall₂_lower {t : Text} (h : t.lower.length = t.length) :
    List.Forall₂ LowersTo t t.lower :=
  (length_lowerAfter [] t).2 h

/-- The characters of a text that is its own lower case stay as they are. -/
theorem eq_of_lowersTo {t : Text} (h : t.lower = t) {c d : Char} (hc : c ∈ t) (hd : LowersTo c d) :
    d = c := by
  have hsame := forall₂_lower (congrArg List.length h)
  rw [h, List.forall₂_same] at hsame
  have hsigma : ¬ LowersTo 'Σ' 'Σ' := by
    unfold LowersTo
    decide
  have hne : c ≠ 'Σ' := by
    rintro rfl
    exact hsigma (hsame _ hc)
  have hlower : lowerChar c = c := ((hsame c hc).resolve_right fun h => hne h.1).symm
  exact (hd.resolve_right fun h => hne h.1).trans hlower

end Text

/-- A script that makes a text in lower case serves for the lower case of what it starts from. -/
theorem EditScript.lower {a b : Text} {n : Nat} (h : EditScript a b n)
    (ha : a.lower.length = a.length) (hb : b.lower = b) : EditScript a.lower b n :=
  h.of_forall₂ (Text.forall₂_lower ha) fun _ hc _ hd => Text.eq_of_lowersTo hb hc hd

/-- Lower case never leads away from a text that is its own lower case. -/
theorem leastCost_lower_le {a b : Text} (ha : a.lower.length = a.length) (hb : b.lower = b) :
    leastCost a.lower b ≤ leastCost a b :=
  ((editScript_leastCost a b).lower ha hb).leastCost_le

end Copyedit
