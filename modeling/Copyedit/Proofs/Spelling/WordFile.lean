import Copyedit.Proofs.Outcome
import Copyedit.Proofs.Parts
import Copyedit.Proofs.Spelling.WordList
import Copyedit.Proofs.TextFile
import Copyedit.Spelling.Dictionary

/-!
# Words in files

A line of a file of words has columns between tabs: the word in the first, its tags in the others
(`entryOfColumns?`).  A line is trimmed before it is taken apart, which takes away the tabs at its start as well,
and with them the columns that are blank.  So the word is read from the first column that is not blank
(`entryOfParts?`), and its tags from those behind it (`entriesOfLines_eq`).

The two readings are the same but for lines whose first column is blank and another is not
(`entryOfColumns?_eq_iff`).  A file without such lines gives the words of the first columns, in the order of first
listing, each with the tags of all its lines; any file gives those of its columns that are not blank
(`WordList.load_lists`).  A line that has a tag and no word makes a word of the tag (`WordList.exists_tag_listed`).
-/

namespace Copyedit.Spelling

variable {line : Text}

/-! ### Lines -/

/-- The lines of a file without comments: a line that starts with a hash is left out, and any other ends at its first
hash. -/
def withoutComments (lines : List Text) : List Text :=
  (lines.filter fun line => line.head? ≠ some '#').map (Text.before '#')

/-- The entry of a line with the word in its first column; none if this is blank. -/
def entryOfColumns? (line : Text) : Option Entry :=
  let word := (line.before '\t').trim
  if word.isEmpty then none else some ⟨word, (line.after '\t').parts '\t'⟩

/-- The entry of a line with the word in the first of its columns that are not blank. -/
def entryOfParts? (line : Text) : Option Entry :=
  match line.parts '\t' with
  | [] => none
  | word :: tags => some ⟨word, tags⟩

/-- The first column of a line is blank, and another is not. -/
def IsIndented (line : Text) : Prop := (line.before '\t').trim = [] ∧ (line.after '\t').trim ≠ []

instance (line : Text) : Decidable (IsIndented line) := inferInstanceAs (Decidable (_ ∧ _))

theorem entryOfParts?_trim (line : Text) : entryOfParts? line.trim = entryOfParts? line := by
  unfold entryOfParts?
  rw [Text.parts_trim]

/-- A line is read from its first column if this is not blank. -/
theorem entryOfParts?_of_ne_nil (h : (line.before '\t').trim ≠ []) :
    entryOfParts? line = some ⟨(line.before '\t').trim, (line.after '\t').parts '\t'⟩ := by
  unfold entryOfParts?
  rw [Text.parts_eq, if_neg h]

/-- It is read from behind its first column if this is blank. -/
theorem entryOfParts?_of_eq_nil (h : (line.before '\t').trim = []) :
    entryOfParts? line = entryOfParts? (line.after '\t') := by
  unfold entryOfParts?
  rw [Text.parts_eq, if_pos h]

theorem entryOfParts?_eq_none_iff : entryOfParts? line = none ↔ line.trim = [] := by
  have htab : isBlank '\t' = true := by decide
  rw [← Text.parts_eq_nil_iff htab]
  unfold entryOfParts?
  split
  · rename_i hparts
    exact iff_of_true rfl hparts
  · rename_i hparts
    rw [hparts]
    exact iff_of_false nofun nofun

/-- The two readings of a line differ where its first column is blank and another is not. -/
theorem entryOfColumns?_eq_iff : entryOfColumns? line = entryOfParts? line ↔ ¬ IsIndented line := by
  unfold entryOfColumns? IsIndented
  dsimp only
  by_cases hfirst : (line.before '\t').trim = []
  · rw [if_pos (List.isEmpty_iff.mpr hfirst), entryOfParts?_of_eq_nil hfirst, eq_comm, entryOfParts?_eq_none_iff,
      and_iff_right hfirst, not_not]
  · rw [if_neg (mt List.isEmpty_iff.mp hfirst), entryOfParts?_of_ne_nil hfirst]
    exact iff_of_true rfl fun h => hfirst h.1

/-- What is read from a trimmed line is what is read from the line. -/
theorem entryOfLine_trim (line : Text) :
    (if line.trim.isEmpty then none else some (entryOfLine line.trim)) = entryOfParts? line := by
  have htab : isBlank '\t' = true := by decide
  split
  · rename_i hblank
    exact (entryOfParts?_eq_none_iff.mpr (List.isEmpty_iff.mp hblank)).symm
  · rename_i hne
    -- a trimmed line has its word in its first column
    have hword := Text.before_trim_ne_nil htab (mt List.isEmpty_iff.mpr hne)
    obtain ⟨pieces, hpieces, htags⟩ := Text.exists_splitAtChar_eq '\t' line.trim
    rw [← entryOfParts?_trim, entryOfParts?_of_ne_nil hword, entryOfLine, hpieces]
    dsimp only
    rw [htags]

/-- The lines of a file are read from their columns that are not blank. -/
theorem entriesOfLines_eq (lines : List Text) :
    entriesOfLines lines = (withoutComments lines).filterMap entryOfParts? := by
  unfold entriesOfLines withoutComments
  rw [List.filterMap_map, List.filterMap_filter]
  congr 1
  funext line
  dsimp only [Function.comp_apply]
  rw [entryOfLine_trim]
  by_cases hcomment : line.head? = some '#'
  · rw [if_pos hcomment, if_neg (by rw [decide_eq_true_iff]; exact not_not_intro hcomment)]
  · rw [if_neg hcomment, if_pos (decide_eq_true hcomment)]

/-! ### Files -/

/-- A word list has the words of a listing, each once, in the order of first listing, with all their tags. -/
structure WordList.Lists (d : WordList) (listed : List Entry) : Prop where
  /-- The words. -/
  words : IsEachOnce (listed.map (·.word)) d.words
  /-- The tags of a word, wherever it is listed. -/
  tags : ∀ w tag, tag ∈ d.tagsFor w ↔ ∃ e ∈ listed, e.word = w ∧ tag ∈ e.tags

/-- A listing without the empty word makes a list of its words and tags. -/
theorem WordList.lists_ofEntries {listed : List Entry} (h : ∀ e ∈ listed, e.word ≠ []) (convertsCase : Bool)
    (name : String) : (WordList.ofEntries listed convertsCase name).Lists listed where
  words := by
    rw [words_ofEntries]
    refine distinctFrom_isEachOnce (List.forall_mem_map.mpr fun e he => ?_)
    rw [List.mem_singleton]
    exact h e he
  tags w tag := by
    rw [mem_tagsFor_ofEntries]
    exact exists_congr fun e => and_congr_right fun he => and_iff_right (h e he)

theorem word_ne_nil_of_entryOfParts? {e : Entry} (h : entryOfParts? line = some e) : e.word ≠ [] := by
  unfold entryOfParts? at h
  split at h
  · cases h
  · rename_i hparts
    obtain rfl := Option.some.inj h
    exact Text.ne_nil_of_mem_parts (hparts ▸ List.mem_cons_self)

/-- A file makes a list of what its lines are read as. -/
theorem WordList.exists_load {f : TextFile} {encoding : Encoding} {content : Text}
    (h : f.read .wordList encoding = .ok content) (convertsCase : Bool) :
    ∃ d, WordList.load f convertsCase encoding = .ok d ∧
      d.Lists ((withoutComments content.lines).filterMap entryOfParts?) := by
  refine ⟨_, map_ok_iff.mpr ⟨content, h, rfl⟩, ?_⟩
  rw [entriesOfLines_eq]
  refine lists_ofEntries (fun e he => ?_) convertsCase f.name
  obtain ⟨line, -, hline⟩ := List.mem_filterMap.mp he
  exact word_ne_nil_of_entryOfParts? hline

/-- **Word files.**  In a line of a file, the first column that is not blank gives a word and the later ones its tags;
the words come in the order of first listing, each once and with all its tags.  Unless a line has nothing before its
first tab and something behind it, the words are those before the first tabs. -/
theorem WordList.load_lists {f : TextFile} {encoding : Encoding} {content : Text}
    (h : f.read .wordList encoding = .ok content) (convertsCase : Bool) :
    ∃ d, WordList.load f convertsCase encoding = .ok d ∧
      d.Lists ((withoutComments content.lines).filterMap entryOfParts?) ∧
      ((∀ line ∈ withoutComments content.lines, ¬ IsIndented line) →
        d.Lists ((withoutComments content.lines).filterMap entryOfColumns?)) := by
  obtain ⟨d, hload, hlists⟩ := exists_load h convertsCase
  refine ⟨d, hload, hlists, fun hindented => ?_⟩
  rwa [List.filterMap_congr fun line hline => entryOfColumns?_eq_iff.mpr (hindented line hline)]

section Examples

/-- A file that lists a word twice, each time with a tag, and has comments. -/
def verbFile : TextFile where
  name := "verbs.txt"
  bytes := some ("# verbs\nrun\tVB # fast\n run \t\tNN\n".toList.map Char.toNat)

theorem WordList.load_verbFile : ∃ d, WordList.load verbFile true .utf8 = .ok d ∧
    d.Lists [⟨"run".toList, ["VB".toList]⟩, ⟨"run".toList, ["NN".toList]⟩] := by
  have hread := TextFile.read_of_all (f := verbFile) rfl (by decide) .wordList
  obtain ⟨d, hload, -, hcolumns⟩ := WordList.load_lists hread true
  exact ⟨d, hload, hcolumns (by decide)⟩

/-- A file with a tag alone in a line. -/
def tagFile : TextFile where
  name := "words.txt"
  bytes := some ("\tNN\nrun\tVB\n".toList.map Char.toNat)

/-- **A tag as a word.**  In a line with nothing before its first tab, the tag behind it is taken for the word. -/
theorem WordList.exists_tag_listed : ∃ f content d, TextFile.read f .wordList .utf8 = .ok content ∧
    WordList.load f true .utf8 = .ok d ∧
    ¬ d.Lists ((withoutComments content.lines).filterMap entryOfColumns?) := by
  have hread := TextFile.read_of_all (f := tagFile) rfl (by decide) .wordList
  obtain ⟨d, hload, hlists⟩ := WordList.exists_load hread true
  refine ⟨tagFile, _, d, hread, hload, fun hcolumns => ?_⟩
  have hword := (hlists.words.mem_iff "NN".toList).mpr (by decide)
  have hnone := (hcolumns.words.mem_iff "NN".toList).mp hword
  revert hnone
  decide

end Examples

end Copyedit.Spelling
