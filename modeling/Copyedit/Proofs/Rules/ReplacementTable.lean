import Copyedit.Proofs.Parts
import Copyedit.Proofs.Rules.Replacement

/-!
# Tables of replacements

A line of a table says nothing (`SaysNothing`), or has one equals sign with parts between bars on both sides
(`IsEntry`); what it lists is told by the line alone, its end included (`wordsOf`, `replacementsIn`).  A line of
another form ends reading, and the error counts the lines up to it, those that say nothing too
(`ofLines_malformed`).  Without such a line, the table is made of what the lines list, one after the other
(`ofLines_wellFormed`).

The main statement `ofLines_written` says what any lines make: a table with each wrong word at the place of its
first listing and with the replacements of its last one (`IsWrittenBy`), which is then a table of a rule; or the
error of the first line that is not well formed.
-/

namespace Copyedit

namespace ReplacementTable

variable {source : String} {table : ReplacementTable} {line : Text} {lines front back : List Text} {n : Nat}

/-! ### Lines -/

/-- A line says nothing: it is blank, or a comment. -/
def SaysNothing (line : Text) : Prop := (∀ c ∈ line, isBlank c = true) ∨ line.head? = some '#'

instance (line : Text) : Decidable (SaysNothing line) :=
  decidable_of_iff (line.isAllBlank = true ∨ line.head? = some '#') (or_congr_left List.all_eq_true)

/-- What stands between bars before the equals sign of a line. -/
def wrongIn (line : Text) : List Text := (line.before '=').parts '|'

/-- What stands between bars behind the equals sign of a line. -/
def replacementsIn (line : Text) : List Text := (line.after '=').parts '|'

/-- A line lists wrong words and replacements. -/
structure IsEntry (line : Text) : Prop where
  /-- It has one equals sign. -/
  count_eq_one : line.count '=' = 1
  /-- Before it there is a wrong word. -/
  wrongIn_ne_nil : wrongIn line ≠ []
  /-- Behind it there is a replacement. -/
  replacementsIn_ne_nil : replacementsIn line ≠ []

instance (line : Text) : Decidable (IsEntry line) :=
  decidable_of_iff (line.count '=' = 1 ∧ wrongIn line ≠ [] ∧ replacementsIn line ≠ [])
    ⟨fun ⟨hcount, hwrong, hreplacements⟩ => ⟨hcount, hwrong, hreplacements⟩,
      fun ⟨hcount, hwrong, hreplacements⟩ => ⟨hcount, hwrong, hreplacements⟩⟩

/-- A line is as a table has it. -/
def IsWellFormed (line : Text) : Prop := SaysNothing line ∨ IsEntry line

instance (line : Text) : Decidable (IsWellFormed line) := inferInstanceAs (Decidable (_ ∨ _))

/-- The wrong words that a line lists. -/
def wordsOf (line : Text) : List Text := if SaysNothing line then [] else wrongIn line

/-- The entries that a line lists. -/
def entriesOf (line : Text) : List (Text × List Text) := (wordsOf line).map fun w => (w, replacementsIn line)

/-- The end that a line is read without is blank. -/
theorem exists_withoutEnd_append (line : Text) : ∃ trail, line = withoutEnd line ++ trail ∧
    (∀ c ∈ trail, isBlank c = true) ∧ '#' ∉ trail ∧ '=' ∉ trail := by
  have hend : ∀ c ∈ line.rtakeWhile fun c => c = '\r' || c = '\n', c = '\r' ∨ c = '\n' := by
    intro c hc
    simpa using List.mem_rtakeWhile_imp hc
  refine ⟨_, (List.rdropWhile_append_rtakeWhile ..).symm, fun c hc => ?_, fun hc => ?_, fun hc => ?_⟩
  · rcases hend c hc with rfl | rfl <;> decide
  · rcases hend '#' hc with h | h <;> cases h
  · rcases hend '=' hc with h | h <;> cases h

/-- A line is skipped iff it says nothing, whatever its end. -/
theorem isSkipped_withoutEnd (line : Text) : isSkipped (withoutEnd line) = true ↔ SaysNothing line := by
  obtain ⟨trail, hline, hblank, hhash, -⟩ := exists_withoutEnd_append line
  generalize withoutEnd line = body at hline
  subst hline
  unfold isSkipped SaysNothing Text.isAllBlank
  rw [Bool.or_eq_true, List.all_eq_true, decide_eq_true_iff, List.forall_mem_append, and_iff_left hblank]
  cases body with
  | nil => simp [mt List.mem_of_head? hhash]
  | cons c body => rfl

theorem count_withoutEnd (line : Text) : (withoutEnd line).count '=' = line.count '=' := by
  obtain ⟨trail, hline, -, -, hnone⟩ := exists_withoutEnd_append line
  conv_rhs => rw [hline]
  rw [List.count_append, List.count_eq_zero_of_not_mem hnone, Nat.add_zero]

/-- A line with one equals sign is read as its two sides, whatever its end. -/
theorem readLine_of_count_eq_one (source : String) (n : Nat) (h : line.count '=' = 1) :
    readLine source n (withoutEnd line) =
      if (wrongIn line).isEmpty || (replacementsIn line).isEmpty then
        .error (.defect (.emptyReplacementLine source n (withoutEnd line)))
      else .ok (wrongIn line, replacementsIn line) := by
  obtain ⟨trail, hline, hblank, -⟩ := exists_withoutEnd_append line
  obtain ⟨left, right, hbody, hleft, hright⟩ := Text.exists_of_count_eq_one ((count_withoutEnd line).trans h)
  -- the end of the line goes with the right side, and changes none of its parts
  have hsides : line = left ++ '=' :: (right ++ trail) := by
    rw [hline, hbody, List.append_assoc, List.cons_append]
  have hwrong : wrongIn line = alternatives left := by
    rw [wrongIn, hsides, Text.before_append_cons hleft]
    rfl
  have hreplacements : replacementsIn line = alternatives right := by
    rw [replacementsIn, hsides, Text.after_append_cons hleft, Text.parts_append_of_isBlank hblank]
    rfl
  unfold readLine
  rw [hbody, Text.splitAtChar_append_cons hleft, Text.splitAtChar_of_notMem hright, hwrong, hreplacements]

/-- A line with no equals sign or several is refused. -/
theorem readLine_of_count_ne_one (source : String) (n : Nat) (h : line.count '=' ≠ 1) :
    readLine source n (withoutEnd line) = .error (.defect (.badReplacementLine source n (withoutEnd line))) := by
  have hlength := Text.length_splitAtChar '=' (withoutEnd line)
  rw [count_withoutEnd] at hlength
  unfold readLine
  split
  · rename_i left right hsplit
    rw [hsplit] at hlength
    exact absurd (Nat.succ.inj hlength).symm h
  · rfl

/-- A message that says something behind a source and the number of a line begins with these. -/
theorem message_eq (source : String) (n : Nat) (wording quoted : String) {said : String}
    (hsaid : said = ":" ++ wording) :
    source ++ (":" ++ toString n ++ said) ++ quoted = s!"{source}:{n}:" ++ (wording ++ quoted) := by
  subst hsaid
  change _ = source ++ ":" ++ toString n ++ ":" ++ _
  simp only [String.append_assoc]

/-- A line that is no entry is refused with its place. -/
theorem readLine_of_not_isEntry (source : String) (n : Nat) (h : ¬ IsEntry line) : ∃ d rest,
    readLine source n (withoutEnd line) = .error (.defect d) ∧ d.message = s!"{source}:{n}:" ++ rest := by
  by_cases hcount : line.count '=' = 1
  · have hempty : ((wrongIn line).isEmpty || (replacementsIn line).isEmpty) = true := by
      rw [Bool.or_eq_true, List.isEmpty_iff, List.isEmpty_iff]
      by_contra hne
      rw [not_or] at hne
      exact h ⟨hcount, hne.1, hne.2⟩
    rw [readLine_of_count_eq_one source n hcount, if_pos hempty]
    exact ⟨_, _, rfl, message_eq source n " empty word or replacement in " _ (by decide)⟩
  · rw [readLine_of_count_ne_one source n hcount]
    exact ⟨_, _, rfl, message_eq source n " expected 'word=replacement', got " _ (by decide)⟩

theorem readLine_of_isEntry (source : String) (n : Nat) (h : IsEntry line) :
    readLine source n (withoutEnd line) = .ok (wrongIn line, replacementsIn line) := by
  rw [readLine_of_count_eq_one source n h.count_eq_one, if_neg]
  simpa using ⟨h.wrongIn_ne_nil, h.replacementsIn_ne_nil⟩

/-! ### Reading -/

theorem readFrom_cons_of_saysNothing (h : SaysNothing line) :
    readFrom source table n (line :: lines) = readFrom source table (n + 1) lines := by
  rw [readFrom]
  exact if_pos ((isSkipped_withoutEnd line).mpr h)

theorem readFrom_cons_of_not_saysNothing (h : ¬ SaysNothing line) :
    readFrom source table n (line :: lines) = (readLine source n (withoutEnd line) >>= fun e =>
      readFrom source (e.1.foldl (fun t w => putKey t w e.2) table) (n + 1) lines) := by
  rw [readFrom]
  exact if_neg (mt (isSkipped_withoutEnd line).mp h)

/-- A well-formed line puts what it lists into the table. -/
theorem readFrom_cons_wellFormed (h : IsWellFormed line) :
    readFrom source table n (line :: lines) =
      readFrom source ((entriesOf line).foldl (fun t e => putKey t e.1 e.2) table) (n + 1) lines := by
  unfold entriesOf wordsOf
  rw [List.foldl_map]
  by_cases hnothing : SaysNothing line
  · rw [readFrom_cons_of_saysNothing hnothing, if_pos hnothing, List.foldl_nil]
  · rw [readFrom_cons_of_not_saysNothing hnothing, readLine_of_isEntry source n (h.resolve_left hnothing),
      if_neg hnothing]
    rfl

/-- Well-formed lines put all that they list into the table, one after the other. -/
theorem readFrom_append (h : ∀ line ∈ front, IsWellFormed line) :
    readFrom source table n (front ++ back) =
      readFrom source ((front.flatMap entriesOf).foldl (fun t e => putKey t e.1 e.2) table)
        (n + front.length) back := by
  induction front generalizing table n with
  | nil => rfl
  | cons line front ih =>
    obtain ⟨hline, hfront⟩ := List.forall_mem_cons.mp h
    rw [List.cons_append, readFrom_cons_wellFormed hline, ih hfront, List.flatMap_cons, List.foldl_append,
      List.length_cons, Nat.add_right_comm, Nat.add_assoc]

/-- The first line that is not well formed ends reading. -/
theorem ofLines_malformed (source : String) (hfront : ∀ line ∈ front, IsWellFormed line)
    (hline : ¬ IsWellFormed line) : ∃ d rest, ofLines (front ++ line :: back) source = .error (.defect d) ∧
      d.message = s!"{source}:{front.length + 1}:" ++ rest := by
  obtain ⟨hnothing, hentry⟩ := not_or.mp hline
  obtain ⟨d, rest, hread, hmessage⟩ := readLine_of_not_isEntry source (front.length + 1) hentry
  refine ⟨d, rest, ?_, hmessage⟩
  rw [ofLines, readFrom_append hfront, Nat.add_comm, readFrom_cons_of_not_saysNothing hnothing, hread]
  rfl

/-- Without such a line, the table is that of all entries. -/
theorem ofLines_wellFormed (source : String) (h : ∀ line ∈ lines, IsWellFormed line) :
    ofLines lines source = .ok (tableOf (lines.flatMap entriesOf)) := by
  have happend : readFrom source [] 1 (lines ++ []) = .ok (tableOf (lines.flatMap entriesOf)) := readFrom_append h
  rwa [List.append_nil] at happend

/-! ### What lines write -/

/-- A table has each wrong word at the place of its first listing in some lines, with the replacements of its
last one. -/
structure IsWrittenBy (table : ReplacementTable) (lines : List Text) : Prop where
  /-- Its words are those listed, each once, in the order of first listing. -/
  words : IsEachOnce (lines.flatMap wordsOf) (table.map (·.1))
  /-- A word has the replacements of the last line that lists it. -/
  replacements : ∀ w listed, (w, listed) ∈ table ↔ ∃ front line back, lines = front ++ line :: back ∧
    w ∈ wordsOf line ∧ listed = replacementsIn line ∧ ∀ later ∈ back, w ∉ wordsOf later

theorem map_key_entriesOf (lines : List Text) :
    (lines.flatMap entriesOf).map (·.1) = lines.flatMap wordsOf := by
  unfold entriesOf
  simp only [List.map_flatMap, List.map_map, Function.comp_def, List.map_id']

theorem lookup_reverse_entriesOf (line w : Text) :
    (entriesOf line).reverse.lookup w = if w ∈ wordsOf line then some (replacementsIn line) else none := by
  split
  · rename_i hw
    refine lookup_of_mem_of_forall (List.mem_reverse.mpr (List.mem_map_of_mem hw)) fun e he _ => ?_
    obtain ⟨w', -, rfl⟩ := List.mem_map.mp (List.mem_reverse.mp he)
    rfl
  · rename_i hw
    refine List.lookup_eq_none_iff.mpr fun e he => ?_
    obtain ⟨w', hw', rfl⟩ := List.mem_map.mp (List.mem_reverse.mp he)
    exact bne_iff_ne.mpr (ne_of_mem_of_not_mem hw' hw).symm

/-- The last entry of a word is from the last line that lists it. -/
theorem lookup_reverse_flatMap (lines : List Text) (w : Text) :
    (lines.flatMap entriesOf).reverse.lookup w =
      (lines.reverse.find? fun line => w ∈ wordsOf line).map replacementsIn := by
  induction lines using List.reverseRecOn with
  | nil => rfl
  | append_singleton lines line ih =>
    rw [List.flatMap_append, List.flatMap_singleton, List.reverse_append, List.lookup_append, ih,
      lookup_reverse_entriesOf, List.reverse_concat, List.find?_cons]
    by_cases hw : w ∈ wordsOf line
    · rw [if_pos hw, Option.some_or, decide_eq_true hw]
      rfl
    · rw [if_neg hw, Option.none_or, decide_eq_false hw]

theorem isWrittenBy_tableOf (lines : List Text) : IsWrittenBy (tableOf (lines.flatMap entriesOf)) lines where
  words := by
    rw [map_key_tableOf, map_key_entriesOf]
    exact distinct_isEachOnce _
  replacements w listed := by
    rw [mem_tableOf_iff, lookup_reverse_flatMap, Option.map_eq_some_iff]
    constructor
    · rintro ⟨line, hfind, rfl⟩
      obtain ⟨front, back, hlines, hline, hback⟩ := find?_reverse_eq_some_iff.mp hfind
      exact ⟨front, line, back, hlines, of_decide_eq_true hline, rfl, fun later hlater =>
        of_decide_eq_false (hback later hlater)⟩
    · rintro ⟨front, line, back, hlines, hline, rfl, hback⟩
      exact ⟨line, find?_reverse_eq_some_iff.mpr ⟨front, back, hlines, decide_eq_true hline,
        fun later hlater => decide_eq_false (hback later hlater)⟩, rfl⟩

/-- An entry of what well-formed lines write has a word and replacements, of which none is empty. -/
theorem IsWrittenBy.ne_nil (h : IsWrittenBy table lines) (hlines : ∀ line ∈ lines, IsWellFormed line)
    {e : Text × List Text} (he : e ∈ table) : e.1 ≠ [] ∧ e.2 ≠ [] ∧ ∀ s ∈ e.2, s ≠ [] := by
  obtain ⟨front, line, back, rfl, hword, hlisted, -⟩ := (h.replacements e.1 e.2).mp he
  unfold wordsOf at hword
  split at hword
  · cases hword
  · rename_i hnothing
    have hentry := (hlines line (by simp)).resolve_left hnothing
    rw [hlisted]
    exact ⟨Text.ne_nil_of_mem_parts hword, hentry.replacementsIn_ne_nil, fun s hs => Text.ne_nil_of_mem_parts hs⟩

end ReplacementTable

/-- Of a table with distinct words, none of them empty, and with replacements, none of them empty, there is a rule
with every setting. -/
theorem ReplacementRule.exists_make {table : ReplacementTable} (hnodup : (table.map (·.1)).Nodup)
    (hne : ∀ e ∈ table, e.1 ≠ [] ∧ e.2 ≠ [] ∧ ∀ s ∈ e.2, s ≠ []) (o : ReplacementRule.Options) :
    ∃ r, ReplacementRule.make table o = .ok r ∧ r.table = table := by
  have hchecked : (tableOf table).mapM (checkEntry o.id) = .ok table := by
    rw [tableOf_eq_self hnodup, mapM_ok_iff, List.forall₂_same]
    intro e he
    obtain ⟨hword, hlisted, hall⟩ := hne e he
    have hfilter : e.2.filter (!·.isEmpty) = e.2 :=
      List.filter_eq_self.mpr fun s hs => by simpa using hall s hs
    exact checkEntry_ok_iff.mpr ⟨hword, by rwa [hfilter], by rw [hfilter]⟩
  unfold make
  rw [hchecked]
  exact ⟨_, rfl, rfl⟩

/-- **Tables.**  Lines that are all well formed write a table with each wrong word at the place of its first
listing and with the replacements of its last one, and any rule can have it.  Otherwise the first line that is not
well formed ends reading, and the error tells its place. -/
theorem ReplacementTable.ofLines_written (lines : List Text) (source : String) :
    ((∀ line ∈ lines, IsWellFormed line) ∧ ∃ table, ofLines lines source = .ok table ∧
      table.IsWrittenBy lines ∧ ∀ o, ∃ r, ReplacementRule.make table o = .ok r ∧ r.table = table) ∨
    ∃ front line back, lines = front ++ line :: back ∧ (∀ line ∈ front, IsWellFormed line) ∧
      ¬ IsWellFormed line ∧ ∃ d rest, ofLines lines source = .error (.defect d) ∧
        d.message = s!"{source}:{front.length + 1}:" ++ rest := by
  rcases forall_or_exists_first (fun line => decide (IsWellFormed line)) lines with
    hall | ⟨front, line, back, rfl, hfront, hline⟩
  · have hlines : ∀ line ∈ lines, IsWellFormed line := fun line h => of_decide_eq_true (hall line h)
    have hwritten := isWrittenBy_tableOf lines
    refine .inl ⟨hlines, _, ofLines_wellFormed source hlines, hwritten, ?_⟩
    exact ReplacementRule.exists_make hwritten.words.nodup fun e => hwritten.ne_nil hlines
  · have hwell : ∀ line ∈ front, IsWellFormed line := fun line h => of_decide_eq_true (hfront line h)
    exact .inr ⟨front, line, back, rfl, hwell, of_decide_eq_false hline,
      ofLines_malformed source hwell (of_decide_eq_false hline)⟩

example : ReplacementTable.ofLines
    ["# wrong=right".toList, "teh|hte=the\n".toList, "adn = and | |end".toList, "teh=ten".toList] =
      .ok [("teh".toList, ["ten".toList]), ("hte".toList, ["the".toList]),
        ("adn".toList, ["and".toList, "end".toList])] := by
  rfl

end Copyedit
