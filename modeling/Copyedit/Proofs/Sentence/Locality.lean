import Copyedit.Proofs.Sentence.Shift
import Copyedit.Proofs.Sentence.Tokenize
import Copyedit.Proofs.Sequence

/-!
# What decides a token

None of the kinds of tokens looks behind its end: what is found at the start of a text is found there
whatever follows, and where nothing is found, nothing is found in less of the text (`IsLocal`).  The kinds
are tried in order, so the same holds of the token that is chosen (`tokenLength_append`).

Two laws follow.  As no token goes on behind a blank, a text that is parted by blanks has the tokens of its
two parts (`tokens_append_blank`).  And as the characters of a token are enough to find it, each token is the
one token of its own text (`tokens_stable`).
-/

namespace Copyedit

namespace Text

/-- A search at the start of a text does not look behind what it finds, and does not fail where it succeeds
on less of the text. -/
structure IsLocal (find : Text → Option Nat) : Prop where
  /-- What is found is found in as much of the text as it takes. -/
  of_some : ∀ {a b : Text} {n : Nat}, find (a ++ b) = some n → n ≤ a.length → find a = some n
  /-- Where nothing is found, nothing is found in less of the text. -/
  of_none : ∀ {a b : Text}, find (a ++ b) = none → find a = none

/-- What is tried in order is local if each attempt is. -/
theorem IsLocal.orElse {find next : Text → Option Nat} (hfind : IsLocal find) (hnext : IsLocal next) :
    IsLocal fun t => (find t).orElse fun _ => next t where
  of_some {a b n} h hn := by
    simp only [Option.orElse_eq_or, Option.or_eq_some_iff] at h ⊢
    rcases h with h | ⟨hnone, h⟩
    · exact .inl (hfind.of_some h hn)
    · exact .inr ⟨hfind.of_none hnone, hnext.of_some h hn⟩
  of_none {a b} h := by
    simp only [Option.orElse_eq_or, Option.or_eq_none_iff] at h ⊢
    exact ⟨hfind.of_none h.1, hnext.of_none h.2⟩

/-! ### Chains -/

section Chains

variable (isSep isPart : Char → Bool) {front back : Text} {c : Char}

/-- How far a chain goes on behind a part. -/
def chainRest : Text → Nat
  | [] => 0
  | c :: rest =>
    if isSep c then
      if chainLength isSep isPart rest = 0 then 0 else chainLength isSep isPart rest + 1
    else 0

theorem chainLength_of_not_isPart (hc : isPart c = false) :
    chainLength isSep isPart (c :: back) = 0 := by
  rw [chainLength, List.takeWhile_cons_of_neg (by rw [hc]; decide), if_pos (by rfl)]

theorem chainLength_nil : chainLength isSep isPart [] = 0 := by
  rw [chainLength, List.takeWhile_nil, if_pos (by rfl)]

/-- A chain that starts with a part. -/
theorem chainLength_part (hne : front ≠ []) (hfront : ∀ d ∈ front, isPart d = true)
    (hback : ∀ d, back.head? = some d → isPart d = false) :
    chainLength isSep isPart (front ++ back) = front.length + chainRest isSep isPart back := by
  have htake := takeWhile_append_eq hfront hback
  have hdrop := dropWhile_append_eq hfront hback
  rw [chainLength, htake, if_neg (by rwa [List.isEmpty_iff])]
  congr 1
  split
  · rename_i hnil
    rw [hdrop] at hnil
    rw [hnil, chainRest]
  · rename_i d rest hcons
    rw [hdrop] at hcons
    rw [hcons, chainRest]

theorem chainLength_eq_length (h : ∀ d ∈ front, isPart d = true) :
    chainLength isSep isPart front = front.length := by
  by_cases hne : front = []
  · rw [hne, chainLength_nil, List.length_nil]
  · have hwhole : chainLength isSep isPart (front ++ []) = front.length + 0 :=
      chainLength_part isSep isPart hne h nofun
    rwa [List.append_nil] at hwhole

theorem length_takeWhile_le_chainLength (t : Text) :
    (t.takeWhile isPart).length ≤ chainLength isSep isPart t := by
  rw [chainLength]
  split
  · rename_i hempty
    rw [List.isEmpty_iff.mp hempty, List.length_nil]
  · exact Nat.le_add_right _ _

/-- A chain that ends within a start of a text is the chain of that start. -/
theorem chainLength_of_append {a b : Text} (h : chainLength isSep isPart (a ++ b) ≤ a.length) :
    chainLength isSep isPart a = chainLength isSep isPart (a ++ b) := by
  induction hlength : a.length using Nat.strong_induction_on generalizing a with
  | _ length ih =>
  rcases forall_or_exists_first isPart a with hall | ⟨front, c, back, rfl, hfront, hc⟩
  · -- the first part takes all of the start, and nothing behind it
    have hle := length_takeWhile_le_chainLength isSep isPart (a ++ b)
    rw [List.takeWhile_append_of_pos hall, List.length_append] at hle
    rw [chainLength_eq_length isSep isPart hall]
    omega
  · rw [List.append_assoc, List.cons_append] at h ⊢
    by_cases hne : front = []
    · subst hne
      exact (chainLength_of_not_isPart isSep isPart hc).trans (chainLength_of_not_isPart isSep isPart hc).symm
    · rw [chainLength_part isSep isPart hne hfront (eq_false_of_head? hc)] at h ⊢
      rw [chainLength_part isSep isPart hne hfront (eq_false_of_head? hc)]
      rw [List.length_append, List.length_cons] at h hlength
      -- behind the separator, the rest of the chain ends within the rest of the start
      have hback : chainLength isSep isPart (back ++ b) ≤ back.length →
          chainLength isSep isPart back = chainLength isSep isPart (back ++ b) :=
        fun hle => ih back.length (by omega) hle rfl
      congr 1
      simp only [chainRest] at h ⊢
      by_cases hsep : isSep c = true
      · rw [if_pos hsep] at h ⊢
        rw [if_pos hsep]
        by_cases hzero : chainLength isSep isPart (back ++ b) = 0
        · rw [hback (by omega)]
        · rw [if_neg hzero] at h
          rw [hback (by omega)]
      · rw [if_neg hsep, if_neg hsep]

end Chains

theorem positive?_eq_some_iff {n k : Nat} : positive? n = some k ↔ n = k ∧ n ≠ 0 := by
  unfold positive?
  split
  · rename_i hzero
    exact ⟨nofun, fun h => absurd hzero h.2⟩
  · rename_i hne
    exact ⟨fun h => ⟨Option.some.inj h, hne⟩, fun h => congrArg some h.1⟩

theorem positive?_eq_none_iff {n : Nat} : positive? n = none ↔ n = 0 := by
  unfold positive?
  split <;> simp_all

theorem chainLength_isLocal (isSep isPart : Char → Bool) :
    IsLocal fun t => positive? (chainLength isSep isPart t) where
  of_some h hn := by
    obtain ⟨rfl, hne⟩ := positive?_eq_some_iff.mp h
    rw [chainLength_of_append isSep isPart hn]
    exact positive?_eq_some_iff.mpr ⟨rfl, hne⟩
  of_none {a b} h := by
    have hzero := positive?_eq_none_iff.mp h
    have hle : chainLength isSep isPart (a ++ b) ≤ a.length := hzero ▸ Nat.zero_le _
    exact positive?_eq_none_iff.mpr ((chainLength_of_append isSep isPart hle).trans hzero)

/-! ### Addresses -/

/-- A start of an address: what follows it is told by the start alone. -/
structure IsOpening (afterStart? : Text → Option Text) : Prop where
  /-- What follows it is the end of the text. -/
  suffix : ∀ {t after : Text}, afterStart? t = some after → after <:+ t
  /-- It is there whatever follows it. -/
  append_iff : ∀ {a b after : Text}, afterStart? (a ++ b) = some (after ++ b) ↔ afterStart? a = some after

theorem afterScheme?_eq_some_iff {t after : Text} : t.afterScheme? = some after ↔
    ∃ c scheme, t = c :: (scheme ++ [':', '/', '/']) ++ after ∧ isLatinLetter c = true ∧
      ∀ d ∈ scheme, isSchemeChar d = true := by
  constructor
  · intro h
    unfold afterScheme? at h
    split at h
    · cases h
    · rename_i c rest
      split at h
      · rename_i hc
        split at h
        · rename_i after' hrest
          obtain rfl := Option.some.inj h
          refine ⟨c, rest.takeWhile isSchemeChar, ?_, hc, fun d => List.mem_takeWhile_imp⟩
          conv_lhs => rw [← List.takeWhile_append_dropWhile (p := isSchemeChar) (l := rest), hrest]
          simp only [List.cons_append, List.append_assoc, List.nil_append]
        · cases h
      · cases h
  · rintro ⟨c, scheme, rfl, hc, hscheme⟩
    have hdrop : (scheme ++ ':' :: '/' :: '/' :: after).dropWhile isSchemeChar =
        ':' :: '/' :: '/' :: after := dropWhile_append_eq hscheme (eq_false_of_head? (by decide))
    simp only [List.cons_append, List.append_assoc, List.nil_append, afterScheme?, hc, hdrop, if_true]

theorem afterScheme?_isOpening : IsOpening afterScheme? where
  suffix := afterScheme?_suffix
  append_iff {a b after} := by
    rw [afterScheme?_eq_some_iff, afterScheme?_eq_some_iff]
    refine exists_congr fun c => exists_congr fun scheme => and_congr_left fun _ => ?_
    rw [← List.append_assoc, List.append_cancel_right_eq]

theorem afterWww?_eq_some_iff {t after : Text} : t.afterWww? = some after ↔
    ∃ c d e, t = [c, d, e, '.'] ++ after ∧ ([c, d, e].all fun x => x == 'w' || x == 'W') = true := by
  constructor
  · intro h
    unfold afterWww? at h
    split at h
    · rename_i c d e rest
      split at h
      · rename_i hall
        obtain rfl := Option.some.inj h
        exact ⟨c, d, e, rfl, hall⟩
      · cases h
    · cases h
  · rintro ⟨c, d, e, rfl, hall⟩
    exact if_pos hall

theorem afterWww?_isOpening : IsOpening afterWww? where
  suffix := afterWww?_suffix
  append_iff {a b after} := by
    rw [afterWww?_eq_some_iff, afterWww?_eq_some_iff]
    refine exists_congr fun c => exists_congr fun d => exists_congr fun e => and_congr_left fun _ => ?_
    rw [← List.append_assoc, List.append_cancel_right_eq]

/-- The end of a text that is dropped goes beyond its last part only if all of that part is dropped. -/
theorem dropEndWhile_append (p : Char → Bool) (a b : Text) : dropEndWhile p (a ++ b) =
    if dropEndWhile p b = [] then dropEndWhile p a else a ++ dropEndWhile p b := by
  unfold dropEndWhile
  rw [List.reverse_append, List.dropWhile_append]
  by_cases hb : b.reverse.dropWhile p = []
  · rw [if_pos (by rwa [List.isEmpty_iff]), if_pos (by rw [hb, List.reverse_nil])]
  · rw [if_neg (by rwa [List.isEmpty_iff]), if_neg (by rwa [List.reverse_eq_nil_iff]), List.reverse_append,
      List.reverse_reverse]

/-- The run of a text up to its first blank is the same whatever follows, if there is a blank. -/
theorem takeWhile_append_cases (p : Char → Bool) (a b : Text) :
    (a ++ b).takeWhile p = a.takeWhile p ∨ a.takeWhile p = a ∧ (a ++ b).takeWhile p = a ++ b.takeWhile p := by
  rcases forall_or_exists_first p a with hall | ⟨front, c, back, rfl, hfront, hc⟩
  · refine .inr ⟨List.takeWhile_eq_self_iff.mpr hall, List.takeWhile_append_of_pos hall⟩
  · left
    rw [List.append_assoc, List.cons_append, takeWhile_append_eq hfront (eq_false_of_head? hc),
      takeWhile_append_eq hfront (eq_false_of_head? hc)]

theorem length_takeWhile_le_append (p : Char → Bool) (a b : Text) :
    (a.takeWhile p).length ≤ ((a ++ b).takeWhile p).length := by
  rcases takeWhile_append_cases p a b with hrun | ⟨ha, hrun⟩
  · rw [hrun]
  · rw [ha, hrun, List.length_append]
    exact Nat.le_add_right _ _

theorem addressLength?_eq_some_iff {t : Text} {afterStart? : Text → Option Text} {n : Nat} :
    addressLength? t afterStart? = some n ↔ ∃ body, afterStart? (t.takeWhile (!isBlank ·)) = some body ∧
      dropEndWhile isAddressTrailer body ≠ [] ∧
      n = (t.takeWhile (!isBlank ·)).length - body.length + (dropEndWhile isAddressTrailer body).length := by
  unfold addressLength?
  dsimp only
  rw [Option.bind_eq_some_iff]
  refine exists_congr fun body => and_congr_right fun _ => ?_
  rw [Option.ite_none_left_eq_some, List.isEmpty_iff, Option.some_inj, eq_comm (a := n)]

theorem IsOpening.addressLength?_isLocal {afterStart? : Text → Option Text} (h : IsOpening afterStart?) :
    IsLocal fun t => addressLength? t afterStart? where
  of_some {a b n} hfound hn := by
    rw [addressLength?_eq_some_iff] at hfound ⊢
    rcases takeWhile_append_cases (!isBlank ·) a b with hrun | ⟨ha, hrun⟩
    · rwa [hrun] at hfound
    · rw [hrun] at hfound
      rw [ha]
      generalize b.takeWhile (!isBlank ·) = tail at hfound
      obtain ⟨body, hbody, hkept, hlength⟩ := hfound
      have hpos := List.length_pos_iff.mpr hkept
      have hle := (h.suffix hbody).length_le
      rw [List.length_append] at hle hlength
      -- the address keeps a character of what follows its start, so that start lies before the tail
      obtain ⟨front, rfl⟩ := List.suffix_of_suffix_length_le (List.suffix_append a tail) (h.suffix hbody)
        (by omega)
      rw [h.append_iff] at hbody
      rw [dropEndWhile_append] at hkept hlength
      rw [List.length_append] at hle hlength
      split at hkept
      · rename_i htail
        rw [if_pos htail] at hlength
        exact ⟨front, hbody, hkept, by omega⟩
      · -- otherwise the address would reach into the tail
        rename_i htail
        have hposTail := List.length_pos_iff.mpr htail
        rw [if_neg htail, List.length_append] at hlength
        omega
  of_none {a b} hnone := by
    rw [Option.eq_none_iff_forall_ne_some] at hnone ⊢
    intro n hfound
    rw [addressLength?_eq_some_iff] at hfound
    rcases takeWhile_append_cases (!isBlank ·) a b with hrun | ⟨ha, hrun⟩
    · rw [← hrun] at hfound
      exact hnone n (addressLength?_eq_some_iff.mpr hfound)
    · rw [ha] at hfound
      obtain ⟨body, hbody, hkept, -⟩ := hfound
      refine hnone _ (addressLength?_eq_some_iff.mpr ⟨body ++ b.takeWhile (!isBlank ·), ?_, ?_, rfl⟩)
      · rw [hrun, h.append_iff, hbody]
      · rw [dropEndWhile_append]
        split
        · exact hkept
        · rename_i htail
          exact List.append_ne_nil_of_right_ne_nil _ htail

/-! ### Mailboxes -/

theorem emailLength?_eq_some_iff {t : Text} {n : Nat} : emailLength? t = some n ↔
    ∃ mailbox domain, t = mailbox ++ '@' :: domain ∧ mailbox ≠ [] ∧
      (∀ c ∈ mailbox, isMailboxChar c = true) ∧
      (domain.takeWhile isDomainChar).length < chainLength (· == '.') isDomainChar domain ∧
      n = mailbox.length + 1 + chainLength (· == '.') isDomainChar domain := by
  constructor
  · intro h
    unfold emailLength? at h
    dsimp only at h
    split at h
    · rename_i domain hdomain
      rw [Option.ite_none_left_eq_some, Bool.or_eq_true, List.isEmpty_iff, decide_eq_true_eq, not_or,
        Nat.not_le, Option.some_inj] at h
      obtain ⟨⟨hne, hlt⟩, rfl⟩ := h
      refine ⟨t.takeWhile isMailboxChar, domain, ?_, hne, fun c => List.mem_takeWhile_imp, hlt, rfl⟩
      rw [← hdomain, List.takeWhile_append_dropWhile]
    · cases h
  · rintro ⟨mailbox, domain, rfl, hne, hmailbox, hlt, rfl⟩
    have hat : ∀ c, ('@' :: domain).head? = some c → isMailboxChar c = false :=
      eq_false_of_head? (by decide)
    have hparts : ¬ (mailbox.isEmpty || decide (chainLength (· == '.') isDomainChar domain ≤
        (domain.takeWhile isDomainChar).length)) = true := by
      rw [Bool.or_eq_true, List.isEmpty_iff, decide_eq_true_eq, not_or, Nat.not_le]
      exact ⟨hne, hlt⟩
    unfold emailLength?
    rw [takeWhile_append_eq hmailbox hat, dropWhile_append_eq hmailbox hat]
    exact if_neg hparts

theorem emailLength?_isLocal : IsLocal emailLength? where
  of_some {a b n} hfound hn := by
    rw [emailLength?_eq_some_iff] at hfound ⊢
    obtain ⟨mailbox, domain, ht, hne, hmailbox, hlt, rfl⟩ := hfound
    -- the mailbox and its mark lie in the start, and the domain ends there
    obtain ⟨front, rfl⟩ : mailbox ++ ['@'] <+: a := by
      have hstart : mailbox ++ ['@'] <+: a ++ b :=
        ⟨domain, by rw [ht, List.append_assoc, List.singleton_append]⟩
      refine List.prefix_of_prefix_length_le hstart (List.prefix_append a b) ?_
      rw [List.length_append, List.length_singleton]
      omega
    rw [List.append_assoc, List.append_assoc, List.singleton_append] at ht
    obtain rfl := (List.cons.inj (List.append_cancel_left ht)).2
    rw [List.length_append, List.length_append, List.length_singleton] at hn
    have hchain : chainLength (· == '.') isDomainChar front =
        chainLength (· == '.') isDomainChar (front ++ b) := chainLength_of_append _ _ (by omega)
    refine ⟨mailbox, front, by rw [List.append_assoc, List.singleton_append], hne, hmailbox, ?_, ?_⟩
    · rw [hchain]
      exact Nat.lt_of_le_of_lt (length_takeWhile_le_append isDomainChar front b) hlt
    · rw [hchain]
  of_none {a b} hnone := by
    rw [Option.eq_none_iff_forall_ne_some] at hnone ⊢
    intro n hfound
    obtain ⟨mailbox, domain, rfl, hne, hmailbox, hlt, -⟩ := emailLength?_eq_some_iff.mp hfound
    refine hnone _ (emailLength?_eq_some_iff.mpr
      ⟨mailbox, domain ++ b, by simp only [List.append_assoc, List.cons_append], hne, hmailbox, ?_, rfl⟩)
    by_contra hge
    rw [Nat.not_lt] at hge
    -- the domain has a mark behind its first part, so it is no longer than it was
    rcases takeWhile_append_cases isDomainChar domain b with hrun | ⟨hall, -⟩
    · rw [hrun] at hge
      have hle := (List.takeWhile_prefix (l := domain) isDomainChar).length_le
      have hchain : chainLength (· == '.') isDomainChar domain =
          chainLength (· == '.') isDomainChar (domain ++ b) := chainLength_of_append _ _ (by omega)
      omega
    · rw [chainLength_eq_length _ _ (List.takeWhile_eq_self_iff.mp hall), hall] at hlt
      exact absurd hlt (Nat.lt_irrefl _)

/-! ### Tokens -/

/-- The kinds of tokens in the order in which they are tried. -/
def kindLength? (t : Text) : Option Nat :=
  (addressLength? t afterScheme?).orElse fun _ =>
  (addressLength? t afterWww?).orElse fun _ =>
  (emailLength? t).orElse fun _ =>
  (positive? (chainLength isNumberJoiner isDecimal t)).orElse fun _ =>
  positive? (chainLength isWordJoiner isWordChar t)

theorem tokenLength_eq (t : Text) : tokenLength t = max 1 ((kindLength? t).getD 1) := rfl

theorem kindLength?_isLocal : IsLocal kindLength? :=
  afterScheme?_isOpening.addressLength?_isLocal.orElse <|
  afterWww?_isOpening.addressLength?_isLocal.orElse <|
  emailLength?_isLocal.orElse <|
  (chainLength_isLocal isNumberJoiner isDecimal).orElse <|
  chainLength_isLocal isWordJoiner isWordChar

/-- A token that ends within a start of a text is the token of that start. -/
theorem tokenLength_append {a b : Text} (h : tokenLength (a ++ b) ≤ a.length) :
    tokenLength a = tokenLength (a ++ b) := by
  rw [tokenLength_eq] at h
  rw [tokenLength_eq, tokenLength_eq]
  cases hkind : kindLength? (a ++ b) with
  | none => rw [kindLength?_isLocal.of_none hkind]
  | some n =>
    rw [hkind, Option.getD_some] at h
    rw [kindLength?_isLocal.of_some hkind (by omega)]

/-- A stretch without blanks ends before a blank. -/
theorem IsSolid.le_length {a b : Text} {c : Char} {n : Nat} (h : IsSolid (a ++ c :: b) n)
    (hc : isBlank c = true) : n ≤ a.length := by
  by_contra hlt
  obtain ⟨m, hm⟩ := Nat.exists_eq_add_of_lt (Nat.not_le.mp hlt)
  have hmem : c ∈ (a ++ c :: b).take n := by
    rw [hm, Nat.add_assoc, List.take_length_add_append, List.take_succ_cons]
    exact List.mem_append_right a List.mem_cons_self
  rw [h.2 c hmem] at hc
  cases hc

/-- The blanks before the next token only move it. -/
theorem tokensFrom_blanks {gap : Text} (hgap : ∀ c ∈ gap, isBlank c = true) (position : Int)
    (spaced first : Bool) (t : Text) : tokensFrom position spaced first (gap ++ t) =
      tokensFrom (position + gap.length) (spaced || !gap.isEmpty) first t := by
  induction gap generalizing position spaced with
  | nil => simp
  | cons c gap ih =>
    obtain ⟨hc, hgap⟩ := List.forall_mem_cons.mp hgap
    rw [List.cons_append, tokensFrom, if_pos hc, ih hgap, List.length_cons]
    simp only [Bool.true_or, List.isEmpty_cons, Bool.not_false, Bool.or_true]
    congr 1
    omega

/-- The tokens of a text that is parted by blanks are those of its two parts. -/
theorem tokensFrom_append {gap : Text} (hne : gap ≠ []) (hgap : ∀ c ∈ gap, isBlank c = true)
    (position : Int) (spaced first : Bool) (a b : Text) :
    tokensFrom position spaced first (a ++ (gap ++ b)) = tokensFrom position spaced first a ++
      tokensFrom (position + a.length + gap.length) true
        (first && (tokensFrom position spaced first a).isEmpty) b := by
  fun_induction tokensFrom position spaced first a with
  | case1 position spaced first =>
    have hspaced : (spaced || !gap.isEmpty) = true := by simp [hne]
    rw [List.nil_append, List.nil_append, tokensFrom_blanks hgap, hspaced]
    simp
  | case2 position spaced first c rest hc ih =>
    rw [List.cons_append, tokensFrom, if_pos hc, ih, List.length_cons]
    congr 2
    omega
  | case3 position spaced first c rest hc n ih =>
    have hsolid := tokenLength_isSolid (Bool.eq_false_iff.mpr hc) (rest ++ (gap ++ b))
    rw [← List.cons_append] at hsolid
    have hle : tokenLength (c :: rest ++ (gap ++ b)) ≤ (c :: rest).length := by
      obtain ⟨d, gap, rfl⟩ := List.exists_cons_of_ne_nil hne
      have hblank := (List.forall_mem_cons.mp hgap).1
      exact IsSolid.le_length (b := gap ++ b) hsolid hblank
    have hn : tokenLength (c :: rest ++ (gap ++ b)) = n := (tokenLength_append hle).symm
    rw [hn] at hle
    rw [List.cons_append, tokensFrom, if_neg hc, ← List.cons_append, hn]
    dsimp only
    rw [List.take_append_of_le_length hle, List.drop_append_of_le_length hle, ih, List.length_drop,
      List.cons_append]
    simp only [Bool.false_and, List.isEmpty_cons, Bool.and_false]
    congr 3
    omega

/-- A token is the first one of a piece of the text. -/
theorem exists_of_mem_tokensFrom {position : Int} {spaced first : Bool} {t : Text} {k : Token}
    (h : k ∈ tokensFrom position spaced first t) : ∃ c rest, isBlank c = false ∧
      k.text = some ((c :: rest).take (tokenLength (c :: rest))) := by
  fun_induction tokensFrom position spaced first t with
  | case1 => cases h
  | case2 position spaced first c rest hc ih => exact ih h
  | case3 position spaced first c rest hc n ih =>
    rcases List.mem_cons.mp h with rfl | h
    · exact ⟨c, rest, Bool.eq_false_iff.mpr hc, rfl⟩
    · exact ih h

/-- The text of a token is a token. -/
theorem tokensFrom_take {c : Char} {rest : Text} (hc : isBlank c = false) (position : Int)
    (spaced first : Bool) :
    tokensFrom position spaced first ((c :: rest).take (tokenLength (c :: rest))) =
      [{ text := some ((c :: rest).take (tokenLength (c :: rest))), start := position,
         spaceBefore := spaced, opensSentence := first }] := by
  have hsolid := tokenLength_isSolid hc rest
  generalize hn : tokenLength (c :: rest) = n at hsolid
  have hpos : 1 ≤ n := hn ▸ one_le_tokenLength (c :: rest)
  have hlength : ((c :: rest).take n).length = n := List.length_take_of_le hsolid.1
  have htoken : tokenLength ((c :: rest).take n) = n := by
    rw [tokenLength_append (b := (c :: rest).drop n) (by rw [List.take_append_drop, hn, hlength]),
      List.take_append_drop, hn]
  obtain ⟨m, rfl⟩ := Nat.exists_eq_add_of_le' hpos
  rw [List.take_succ_cons] at htoken hlength ⊢
  rw [tokensFrom, if_neg (Bool.eq_false_iff.mp hc)]
  dsimp only
  rw [htoken, List.take_of_length_le (by omega), List.drop_of_length_le (by omega), tokensFrom]

/-! ### Main statements -/

/-- What stands before a text tells nothing about its tokens but the flags of the first. -/
theorem map_place_tokensFrom (position : Int) (spaced first spaced' first' : Bool) (t : Text) :
    (tokensFrom position spaced first t).map (fun k => (k.text, k.start)) =
      (tokensFrom position spaced' first' t).map fun k => (k.text, k.start) := by
  fun_induction tokensFrom position spaced first t generalizing spaced' first' with
  | case1 => rw [tokensFrom]
  | case2 position spaced first c rest hc ih =>
    rw [tokensFrom, if_pos hc]
    exact ih true first'
  | case3 position spaced first c rest hc n ih =>
    rw [tokensFrom, if_neg hc]
    rfl

/-- **Blanks part tokens.**  Two texts with blanks between them have the tokens of the first one and then
those of the second one, as many positions later. -/
theorem tokens_append_blank (a w b : Text) (hne : w ≠ []) (hw : ∀ c ∈ w, isBlank c = true) (offset : Int) :
    ((a ++ w ++ b).tokens offset).map (fun k => (k.text, k.start)) =
      (a.tokens offset).map (fun k => (k.text, k.start)) ++
        (b.tokens offset).map fun k => (k.text, k.start + ((a.length + w.length : Nat) : Int)) := by
  have hlater := tokens_shift b offset (a.length + w.length : Nat)
  rw [Int.natCast_add, ← Int.add_assoc] at hlater
  rw [List.append_assoc, tokens, tokensFrom_append hne hw, List.map_append]
  congr 1
  rw [map_place_tokensFrom _ _ _ false true, ← tokens, hlater, List.map_map]
  rfl

/-- Behind a line end, a number is found as if it stood alone. -/
theorem tokens_mailbox : [' ', '\n'] ≠ [] ∧ (∀ c ∈ [' ', '\n'], isBlank c = true) ∧
    (tokens ("Ask me@site.org:".toList ++ [' ', '\n'] ++ "3,5".toList)).map (fun k => (k.text, k.start)) =
      [(some "Ask".toList, 0), (some "me@site.org".toList, 4), (some [':'], 15), (some "3,5".toList, 18)] := by
  have hblank : ∀ c ∈ [' ', '\n'], isBlank c = true :=
    List.forall_mem_cons.mpr ⟨by decide, List.forall_mem_singleton.mpr (by decide)⟩
  refine ⟨by decide, hblank, ?_⟩
  rw [tokens_append_blank _ _ _ (by decide) hblank]
  decide +kernel

/-- **Tokens are stable.**  The text of a token has that token alone. -/
theorem tokens_stable (t : Text) (offset : Int) : ∀ k ∈ t.tokens offset, ∃ w, k.text = some w ∧
    ∀ position, w.tokens position = [{ text := some w, start := position, opensSentence := true }] := by
  intro k hk
  obtain ⟨c, rest, hc, htext⟩ := exists_of_mem_tokensFrom hk
  exact ⟨_, htext, fun position => tokensFrom_take hc position false true⟩

/-- An address in a text in brackets. -/
def bracketedAddress : Token := { text := some "www.a.org/b".toList, start := 5, spaceBefore := true }

/-- Without the bracket behind it, the address is found again. -/
theorem tokens_address : bracketedAddress ∈ tokens "(see www.a.org/b).".toList ∧
    ∀ position, tokens "www.a.org/b".toList position =
      [{ bracketedAddress with start := position, spaceBefore := false, opensSentence := true }] := by
  have hmem : bracketedAddress ∈ tokens "(see www.a.org/b).".toList := by decide +kernel
  obtain ⟨_, hw, htokens⟩ := tokens_stable "(see www.a.org/b).".toList 0 _ hmem
  obtain rfl := Option.some.inj hw
  exact ⟨hmem, htokens⟩

end Text

end Copyedit
