/-
  VersionPick.Proofs.Http.Form — fields that are written as forms are sent are read back.

  What is written holds no character but those that stand for themselves, plus signs and
  percent signs (`mem_writeText`), so that `&` and `=` are found in it only where they
  were put. A plus sign is taken for a space before the bytes after percent signs are; this
  does no harm, as a plus sign of the text itself was written as a byte. What is left are
  the bytes of the text, character by character (`unescape_spaced_writeText`).
-/

import VersionPick.Http.Form
import VersionPick.Proofs.Text.Joining
import VersionPick.Proofs.Traversal

namespace VersionPick

/-! ## Hexadecimal digits -/

namespace Text.Hex

theorem digitValue?_capital {n : Nat} (h : n < 16) : digitValue? (capital n) = some n := by
  revert n
  decide

theorem isAlphanum_capital {n : Nat} (h : n < 16) : (capital n).isAlphanum = true := by
  revert n
  decide

end Text.Hex

namespace Http

/-! ## Bytes after percent signs -/

theorem unescape_cons {c : Char} (h : c ≠ '%') (cs : List Char) :
    unescape (c :: cs) = String.utf8EncodeChar c ++ unescape cs := by
  conv => lhs; unfold unescape
  split
  · rename_i heq
    exact absurd (List.cons.inj heq).1 h
  · rename_i heq
    obtain ⟨rfl, rfl⟩ := List.cons.inj heq
    rfl
  · rename_i heq
    cases heq

theorem unescape_percent (b : UInt8) (cs : List Char) : unescape (percent b ++ cs) = b :: unescape cs := by
  have hb : b.toNat < 256 := b.toNat_lt
  have hhigh : b.toNat / 16 < 16 := by omega
  have hlow : b.toNat % 16 < 16 := by omega
  have hvalue : 16 * (b.toNat / 16) + b.toNat % 16 = b.toNat := by omega
  simp only [percent, List.cons_append, List.nil_append, unescape, Text.Hex.digitValue?_capital hhigh,
    Text.Hex.digitValue?_capital hlow]
  rw [hvalue, UInt8.ofNat_toNat]

theorem unescape_percents (bs : List UInt8) (cs : List Char) :
    unescape (bs.flatMap percent ++ cs) = bs ++ unescape cs := by
  induction bs with
  | nil => rfl
  | cons b bs ih => rw [List.flatMap_cons, List.append_assoc, unescape_percent, ih, List.cons_append]

theorem mem_percent {b : UInt8} {c : Char} (h : c ∈ percent b) : c = '%' ∨ c.isAlphanum = true := by
  have hb : b.toNat < 256 := b.toNat_lt
  simp only [percent, List.mem_cons, List.not_mem_nil, or_false] at h
  rcases h with rfl | rfl | rfl
  · exact Or.inl rfl
  · exact Or.inr (Text.Hex.isAlphanum_capital (by omega))
  · exact Or.inr (Text.Hex.isAlphanum_capital (by omega))

theorem mem_escape {standsForItself : Char → Bool} {c d : Char} (h : d ∈ escape standsForItself c) :
    standsForItself d = true ∨ d = '%' ∨ d.isAlphanum = true := by
  unfold escape at h
  split at h
  · rename_i hself
    obtain rfl := List.mem_singleton.mp h
    exact Or.inl hself
  · obtain ⟨b, -, hd⟩ := List.mem_flatMap.mp h
    exact Or.inr (mem_percent hd)

namespace Form

/-! ## What is written -/

def writeChar (c : Char) : List Char := if c = ' ' then ['+'] else escape standsForItself c

def spaced (s : List Char) : List Char := s.map fun c => if c = '+' then ' ' else c

theorem writeText_eq (s : String) : writeText s = s.toList.flatMap writeChar := rfl

theorem standsForItself_of_isAlphanum {c : Char} (h : c.isAlphanum = true) : standsForItself c = true := by
  simp [standsForItself, h]

theorem mem_writeChar {c d : Char} (h : d ∈ writeChar c) : standsForItself d = true ∨ d = '+' ∨ d = '%' := by
  unfold writeChar at h
  split at h
  · exact Or.inr (Or.inl (List.mem_singleton.mp h))
  · rcases mem_escape h with hself | hpercent | halphanum
    · exact Or.inl hself
    · exact Or.inr (Or.inr hpercent)
    · exact Or.inl (standsForItself_of_isAlphanum halphanum)

theorem mem_writeText {s : String} {d : Char} (h : d ∈ writeText s) :
    standsForItself d = true ∨ d = '+' ∨ d = '%' := by
  rw [writeText_eq] at h
  obtain ⟨c, -, hd⟩ := List.mem_flatMap.mp h
  exact mem_writeChar hd

theorem ampersand_not_mem_writeText (s : String) : '&' ∉ writeText s :=
  fun h => absurd (mem_writeText h) (by decide)

theorem equals_not_mem_writeText (s : String) : '=' ∉ writeText s :=
  fun h => absurd (mem_writeText h) (by decide)

theorem ampersand_not_mem_writeField (field : String × String) : '&' ∉ writeField field := by
  simp [writeField, ampersand_not_mem_writeText]

/-! ## What is read -/

theorem spaced_cons {c : Char} (h : c ≠ '+') (cs : List Char) : spaced (c :: cs) = c :: spaced cs := by
  simp [spaced, h]

theorem spaced_percents (bs : List UInt8) (cs : List Char) :
    spaced (bs.flatMap percent ++ cs) = bs.flatMap percent ++ spaced cs := by
  have hself : ∀ c ∈ bs.flatMap percent, (if c = '+' then ' ' else c) = id c := by
    intro c hc
    obtain ⟨b, -, hc⟩ := List.mem_flatMap.mp hc
    refine if_neg ?_
    rintro rfl
    exact absurd (mem_percent hc) (by decide)
  unfold spaced
  rw [List.map_append, List.map_congr_left hself, List.map_id]

theorem unescape_spaced_writeChar (c : Char) (cs : List Char) :
    unescape (spaced (writeChar c ++ cs)) = String.utf8EncodeChar c ++ unescape (spaced cs) := by
  unfold writeChar escape
  split
  · rename_i hspace
    subst hspace
    exact unescape_cons (by decide) (spaced cs)
  · split
    · rename_i hself
      have hplus : c ≠ '+' := by
        rintro rfl
        exact absurd hself (by decide)
      have hpercent : c ≠ '%' := by
        rintro rfl
        exact absurd hself (by decide)
      rw [List.singleton_append, spaced_cons hplus, unescape_cons hpercent]
    · rw [spaced_percents, unescape_percents]

theorem unescape_spaced_writeText (s : String) :
    unescape (spaced (writeText s)) = s.toList.flatMap String.utf8EncodeChar := by
  rw [writeText_eq]
  induction s.toList with
  | nil => rfl
  | cons c cs ih => rw [List.flatMap_cons, unescape_spaced_writeChar, ih, List.flatMap_cons]

theorem fromUTF8?_flatMap (s : String) :
    String.fromUTF8? ⟨(s.toList.flatMap String.utf8EncodeChar).toArray⟩ = some s := by
  have hbytes : (⟨(s.toList.flatMap String.utf8EncodeChar).toArray⟩ : ByteArray) = s.toByteArray := by
    rw [← String.utf8Encode_toList, List.utf8Encode]
    exact ByteArray.ext List.data_toByteArray.symm
  rw [hbytes, String.fromUTF8?, dif_pos s.isValidUTF8]
  rfl

theorem readText?_writeText (s : String) : readText? (writeText s) = some s := by
  change String.fromUTF8? ⟨(unescape (spaced (writeText s))).toArray⟩ = some s
  rw [unescape_spaced_writeText, fromUTF8?_flatMap]

theorem readField?_writeField (field : String × String) : readField? (writeField field) = some field := by
  have hcut : Text.cut? '=' (writeField field) = some (writeText field.1, writeText field.2) :=
    Text.cut?_eq_some_iff.mpr ⟨rfl, equals_not_mem_writeText field.1⟩
  simp only [readField?, hcut, readText?_writeText, Option.bind_some, Option.map_some]

theorem pieces_write {fields : Fields} (h : fields ≠ []) : Text.pieces ['&'] (write fields) = fields.map writeField := by
  refine (Text.pieces_eq_iff (List.cons_ne_nil _ _)).mpr ((Text.cut_singleton_sep_iff (by simpa using h)).mpr ?_)
  intro p hp
  obtain ⟨field, -, rfl⟩ := List.mem_map.mp hp
  exact ampersand_not_mem_writeField field

/-- Fields are read back as they were, in their order, whatever characters are in them. -/
theorem read?_write (fields : Fields) : read? (write fields) = some fields := by
  by_cases h : fields = []
  · subst h
    rfl
  · have hfilled : (fields.map writeField).filter (fun p => !p.isEmpty) = fields.map writeField := by
      refine List.filter_eq_self.mpr fun p hp => ?_
      obtain ⟨field, -, rfl⟩ := List.mem_map.mp hp
      simp [writeField]
    rw [read?, pieces_write h, hfilled, mapM_eq_some_iff, List.forall₂_map_left_iff]
    exact List.forall₂_same.mpr fun field _ => readField?_writeField field

end Form

end Http

end VersionPick
