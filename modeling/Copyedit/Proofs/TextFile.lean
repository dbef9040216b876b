import Copyedit.TextFile

/-!
# Files of ASCII text

Where bytes are the codes of ASCII characters, a file is read as these characters, if its lines end in newlines
alone (`TextFile.read_ascii`).
-/

namespace Copyedit

theorem Encoding.decode8?_ascii {t : Text} (h : ∀ c ∈ t, c.toNat < 128) :
    decode8? (t.map Char.toNat) = some t := by
  induction t with
  | nil => rfl
  | cons c t ih =>
    obtain ⟨hc, ht⟩ := List.forall_mem_cons.mp h
    rw [List.map_cons]
    unfold decode8?
    rw [if_pos hc, ih ht, Char.ofNat_toNat]
    rfl

theorem Text.withNewlines_of_notMem {t : Text} (h : '\r' ∉ t) : t.withNewlines = t := by
  induction t with
  | nil => rfl
  | cons c t ih =>
    rw [List.mem_cons, not_or] at h
    rw [Text.withNewlines, ih h.2]
    · exact fun _ hc _ => h.1 hc.symm
    · exact fun hc => h.1 hc.symm

/-- A file of ASCII characters is read as they stand there if lines end in newlines. -/
theorem TextFile.read_ascii {f : TextFile} {t : Text} (hbytes : f.bytes = some (t.map Char.toNat))
    (h : ∀ c ∈ t, c.toNat < 128 ∧ c ≠ '\r') (kind : FileKind) : f.read kind = .ok t := by
  have hdecode : Encoding.decode .utf8 (t.map Char.toNat) = .ok t := by
    rw [Encoding.decode, Encoding.decode8?_ascii fun c hc => (h c hc).1]
    rfl
  unfold TextFile.read
  rw [hbytes, Option.map_some, hdecode]
  exact congrArg Except.ok (Text.withNewlines_of_notMem fun hr => (h _ hr).2 rfl)

theorem TextFile.read_of_all {f : TextFile} {t : Text} (hbytes : f.bytes = some (t.map Char.toNat))
    (h : t.all (fun c => c.toNat < 128 && c != '\r') = true) (kind : FileKind) : f.read kind = .ok t :=
  TextFile.read_ascii hbytes (fun c hc => by simpa using List.all_eq_true.mp h c hc) kind

end Copyedit
