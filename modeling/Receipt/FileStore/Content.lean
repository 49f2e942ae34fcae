import Receipt.Log

/-!
# Contents of files

The content of a file is kept in two parts, the bytes up to the place that was written last and the
bytes behind it, so that writing goes on from there without a walk over the file.  What a file holds
is one list of bytes, and `toList_overwrite` says what a write does to it.
-/

set_option autoImplicit false

namespace Receipt

/-- The bytes of a file, cut at the place that was written last. -/
structure Content where
  before : Log UInt8
  behind : List UInt8
  deriving DecidableEq, Repr

namespace Content

/-- The content without bytes. -/
def empty : Content :=
  ⟨.empty, []⟩

/-- All bytes in order. -/
def toList (content : Content) : List UInt8 :=
  content.before.toList ++ content.behind

/-- The same bytes, cut at an offset; a gap in front of the offset is filled with zeros. -/
def seek (content : Content) (offset : Nat) : Content :=
  if offset ≤ content.before.size then
    let back := content.before.size - offset
    ⟨content.before.dropLast back, content.before.last back ++ content.behind⟩
  else
    let ahead := offset - content.before.size
    let passed := content.behind.take ahead
    ⟨(content.before.append passed).append (List.replicate (ahead - passed.length) 0),
      content.behind.drop ahead⟩

/-- The content after writing at an offset.  Writing nothing leaves it as it is. -/
def overwrite (content : Content) (offset : Nat) (data : List UInt8) : Content :=
  if data.isEmpty then content
  else
    let cut := content.seek offset
    ⟨cut.before.append data, cut.behind.drop data.length⟩

/-- The content without bytes has none. -/
@[simp] theorem toList_empty : empty.toList = [] :=
  rfl

/-- In front of the cut stand the bytes before the offset and the filled gap. -/
theorem before_seek (content : Content) (offset : Nat) :
    (content.seek offset).before.toList =
      content.toList.take offset ++ List.replicate (offset - content.toList.length) 0 := by
  unfold seek
  split
  · next within =>
      have full : offset - (content.before.size + content.behind.length) = 0 := by omega
      have kept : content.before.size - (content.before.size - offset) = offset := by omega
      simp [toList, full, kept, List.take_append_of_le_length, within]
  · next beyond =>
      have head : content.before.toList.take offset = content.before.toList :=
        List.take_of_length_le (by simp only [Log.length_toList]; omega)
      have gap : offset - content.before.size - min (offset - content.before.size)
          content.behind.length = offset - (content.before.size + content.behind.length) := by
        omega
      simp [toList, List.take_append, head, gap]

/-- Behind the cut stand the bytes from the offset on. -/
theorem behind_seek (content : Content) (offset : Nat) :
    (content.seek offset).behind = content.toList.drop offset := by
  unfold seek
  split
  · next within =>
      have kept : content.before.size - (content.before.size - offset) = offset := by omega
      simp [toList, kept, List.drop_append_of_le_length, within]
  · next beyond =>
      have none : content.before.toList.drop offset = [] :=
        List.drop_eq_nil_of_le (by simp only [Log.length_toList]; omega)
      simp [toList, List.drop_append, none]

/-- A write puts its bytes at the offset, in the place of as many bytes that stood there. -/
theorem toList_overwrite (content : Content) (offset : Nat) {data : List UInt8} (h : data ≠ []) :
    (content.overwrite offset data).toList =
      content.toList.take offset ++ List.replicate (offset - content.toList.length) 0 ++ data ++
        content.toList.drop (offset + data.length) := by
  have written : data.isEmpty = false := by simpa using h
  simp [overwrite, written, toList, before_seek, behind_seek]

end Content

end Receipt
