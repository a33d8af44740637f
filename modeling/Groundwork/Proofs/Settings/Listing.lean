import Mathlib.Data.List.Forall2
import Groundwork.Settings.Listing

/-!
# Aligned listings

In a listing all values begin in one column, which lies two characters behind the size of the
longest name (`Aligned`).  That size is in bytes, while names are padded by characters; a text never
has more characters than bytes (`length_le_utf8ByteSize`), so no name reaches into the column, in
whatever script it is.

`listing?_aligned` says that there is such a listing unless a name is longer than the widest column.
-/

namespace Groundwork

/-! ### Characters and bytes -/

namespace Text

theorem ofList_cons (c : Char) (cs : List Char) :
    String.ofList (c :: cs) = String.singleton c ++ String.ofList cs := by
  rw [String.singleton_eq_ofList, ← String.ofList_append, List.singleton_append]

/-- Every character takes up a byte at least. -/
theorem length_le_utf8ByteSize (s : String) : s.length ≤ s.utf8ByteSize := by
  suffices h : ∀ cs : List Char, cs.length ≤ (String.ofList cs).utf8ByteSize by
    rw [← String.length_toList]
    simpa using h s.toList
  intro cs
  induction cs with
  | nil => exact Nat.zero_le _
  | cons c cs ih =>
    have hpos := c.utf8Size_pos
    rw [ofList_cons, String.utf8ByteSize_append, String.utf8ByteSize_singleton, List.length_cons]
    omega

theorem utf8ByteSize_replicate (n : Nat) (c : Char) :
    (replicate n c).utf8ByteSize = n * c.utf8Size := by
  induction n with
  | zero => rw [Nat.zero_mul]; rfl
  | succ n ih =>
    rw [replicate] at ih ⊢
    rw [List.replicate_succ, ofList_cons, String.utf8ByteSize_append,
      String.utf8ByteSize_singleton, ih, Nat.succ_mul, Nat.add_comm]

end Text

namespace Settings

variable {ss : Settings} {s : Setting} {width : Nat}

/-! ### The width of the names -/

/-- The size in bytes of the longest name. -/
structure IsLongest (ss : Settings) (width : Nat) : Prop where
  /-- No name is longer. -/
  le : ∀ s ∈ ss.entries, s.name.utf8ByteSize ≤ width
  /-- One name is as long, if there is any. -/
  reached : ss.entries ≠ [] → ∃ s ∈ ss.entries, s.name.utf8ByteSize = width

theorem isLongest_nameWidth (ss : Settings) : ss.IsLongest ss.nameWidth := by
  have hwidth : ss.nameWidth =
      max 0 ((ss.entries.map fun s => s.name.utf8ByteSize).max?.getD 0) := List.foldl_max
  rcases hmax : (ss.entries.map fun s => s.name.utf8ByteSize).max? with _ | longest
  · have hnone : ss.entries = [] := by simpa [List.max?_eq_none_iff] using hmax
    exact ⟨by simp [hnone], fun hne => absurd hnone hne⟩
  · obtain ⟨hmem, hle⟩ := List.max?_eq_some_iff.mp hmax
    rw [hmax, Option.getD_some, Nat.zero_max] at hwidth
    rw [hwidth]
    exact ⟨fun s hs => hle _ (List.mem_map_of_mem hs), fun _ => List.mem_map.mp hmem⟩

theorem nameWidth_le_iff :
    ss.nameWidth ≤ width ↔ ∀ s ∈ ss.entries, s.name.utf8ByteSize ≤ width := by
  have hlongest := ss.isLongest_nameWidth
  constructor
  · exact fun h s hs => Nat.le_trans (hlongest.le s hs) h
  · intro h
    by_cases hne : ss.entries = []
    · rw [nameWidth, hne]
      exact Nat.zero_le width
    · obtain ⟨s, hs, hsize⟩ := hlongest.reached hne
      exact hsize ▸ h s hs

theorem listing?_eq_none_iff :
    ss.listing? = none ↔ ∃ s ∈ ss.entries, widestColumn < s.name.utf8ByteSize := by
  rw [listing?, ite_eq_right_iff]
  simp [nameWidth_le_iff]

/-! ### The lines -/

/-- A line with the whole name in front, and with the value from a column on.  Blanks fill the space
between them, two at least. -/
structure LinedUp (column : Nat) (s : Setting) (line : String) : Prop where
  /-- The name and the blanks reach up to the column. -/
  named : ∃ gap ≥ 2, s.name.length + gap = column ∧
    line.toList.take column = s.name.toList ++ List.replicate gap ' '
  /-- The value begins in the column. -/
  valued : s.value.text.toList <+: line.toList.drop column

theorem toList_listingLine (width : Nat) (s : Setting) :
    ∃ note, (listingLine width s).toList =
      (s.name.toList ++ List.replicate (width - s.name.length + 2) ' ') ++
        (s.value.text.toList ++ note) := by
  have hname : (padTo width s.name ++ "  ").toList =
      s.name.toList ++ List.replicate (width - s.name.length + 2) ' ' := by
    simp [padTo, Text.replicate, List.replicate_add]
  rw [listingLine, ← hname]
  apply Exists.intro
  simp only [String.toList_append, List.append_assoc]
  rfl

theorem linedUp_listingLine (h : s.name.length ≤ width) :
    LinedUp (width + 2) s (listingLine width s) := by
  obtain ⟨note, hline⟩ := toList_listingLine width s
  have hcolumn : s.name.length + (width - s.name.length + 2) = width + 2 := by omega
  have hlength : (s.name.toList ++ List.replicate (width - s.name.length + 2) ' ').length =
      width + 2 := by
    rw [List.length_append, String.length_toList, List.length_replicate, hcolumn]
  refine ⟨⟨_, Nat.le_add_left 2 _, hcolumn, ?_⟩, ?_⟩
  · rw [hline, List.take_left' hlength]
  · rw [hline, List.drop_left' hlength]
    exact List.prefix_append _ _

/-- Lines for settings: one for each of them in their order, with all values in the column that lies
two characters behind the size of the longest name. -/
def Aligned (ss : Settings) (lines : List String) : Prop :=
  ∃ width, ss.IsLongest width ∧ List.Forall₂ (LinedUp (width + 2)) ss.entries lines

theorem aligned_listing (ss : Settings) : ss.Aligned ss.listing := by
  refine ⟨ss.nameWidth, ss.isLongest_nameWidth, ?_⟩
  rw [listing, List.forall₂_map_right_iff, List.forall₂_same]
  intro s hs
  exact linedUp_listingLine
    (Nat.le_trans (Text.length_le_utf8ByteSize s.name) (ss.isLongest_nameWidth.le s hs))

/-- Settings have an aligned listing exactly if the widest column can hold each of their names, and
no listing otherwise. -/
theorem listing?_aligned (ss : Settings) :
    ((∃ lines, ss.listing? = some lines ∧ ss.Aligned lines) ↔
      ∀ s ∈ ss.entries, s.name.utf8ByteSize ≤ widestColumn) ∧
    (ss.listing? = none ↔ ∃ s ∈ ss.entries, widestColumn < s.name.utf8ByteSize) := by
  refine ⟨⟨?_, fun hnames => ?_⟩, listing?_eq_none_iff⟩
  · rintro ⟨lines, hlines, -⟩ s hs
    by_contra hlong
    rw [listing?_eq_none_iff.mpr ⟨s, hs, Nat.lt_of_not_le hlong⟩] at hlines
    cases hlines
  · refine ⟨ss.listing, ?_, ss.aligned_listing⟩
    rw [listing?, if_pos (nameWidth_le_iff.mpr hnames)]

example :
    (⟨[{ name := "größe", default := .bool false, choice := .given (.bool true) true },
      { name := "域名", scope := .unit "web", default := .string "a.org" }]⟩ : Settings).listing? =
    some ["größe    true  (shared, user)", "域名         (web, default)"] := by
  decide

/-- A setting whose name is one byte longer than the widest column. -/
def overlong : Settings :=
  ⟨[{ name := Text.replicate 65536 'a', default := .bool false }]⟩

theorem overlong_unlisted :
    overlong.listing? = none ∧
      ¬∃ lines, overlong.listing? = some lines ∧ overlong.Aligned lines := by
  have hnone : overlong.listing? = none := by
    rw [listing?_eq_none_iff]
    refine ⟨_, List.mem_singleton_self _, ?_⟩
    rw [Text.utf8ByteSize_replicate]
    decide
  refine ⟨hnone, ?_⟩
  rintro ⟨lines, hlines, -⟩
  rw [hnone] at hlines
  cases hlines

end Settings

end Groundwork
