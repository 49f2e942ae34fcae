import Receipt.Proofs.Bytes
import Receipt.Proofs.Text
import Receipt.Qr.Native

/-!
# Blocks as a printer reads them

A printer that draws symbols by itself reads blocks: a mark, the length of a body as a word, and so
many bytes.  What is written here is how printers are documented to read.  The word holds any length
below 65536, so that a block with a shorter body is read back whatever follows it.  No reader can
find a longer body in one block.
-/

set_option autoImplicit false

namespace Receipt.Qr.Native

variable {bytes body rest : List UInt8} {bodies : List (List UInt8)}

/-- The body of the block at the front of bytes, and the bytes behind it. -/
def block? : List UInt8 → Option (List UInt8 × List UInt8)
  | 0x1d :: 0x28 :: 0x6b :: low :: high :: rest => Bytes.takeExact? (Bytes.wordValue low high) rest
  | _ => none

/-- A block takes bytes, and its length is a word. -/
theorem length_of_block? (found : block? bytes = some (body, rest)) :
    rest.length < bytes.length ∧ body.length < 65536 := by
  unfold block? at found
  split at found
  · rename_i low high tail
    obtain ⟨length_eq, rfl⟩ := Bytes.takeExact?_eq_some.mp found
    have word := Bytes.wordValue_lt low high
    simp only [List.length_cons, List.length_append]
    omega
  · cases found

/-- The bodies of the blocks that bytes are, if they can be read to their end. -/
def blocks? (bytes : List UInt8) : Option (List (List UInt8)) :=
  match bytes with
  | [] => some []
  | byte :: others =>
    match _found : block? (byte :: others) with
    | some (body, rest) => (blocks? rest).map (body :: ·)
    | none => none
termination_by bytes.length
decreasing_by exact (length_of_block? _found).1

/-- No bytes are no blocks. -/
theorem blocks?_nil : blocks? [] = some [] := by
  rw [blocks?]

/-- Bytes that do not start with a block are no blocks. -/
theorem blocks?_of_block?_eq_none {byte : UInt8} {others : List UInt8}
    (missing : block? (byte :: others) = none) : blocks? (byte :: others) = none := by
  rw [blocks?]
  split
  · next found =>
    rw [missing] at found
    cases found
  · rfl

/-- Reading goes on behind the first block. -/
theorem blocks?_of_block? (found : block? bytes = some (body, rest)) :
    blocks? bytes = (blocks? rest).map (body :: ·) := by
  cases bytes with
  | nil => cases found
  | cons byte others =>
      rw [blocks?]
      split
      · next same =>
        rw [found] at same
        cases same
        rfl
      · next missing =>
        rw [found] at missing
        cases missing

/-- No body that is read is longer than a word. -/
theorem length_of_blocks? (read : blocks? bytes = some bodies) :
    ∀ body ∈ bodies, body.length < 65536 := by
  fun_induction blocks? bytes generalizing bodies with
  | case1 =>
      cases read
      exact List.forall_mem_nil _
  | case2 byte others body rest found ih =>
      obtain ⟨others, read_rest, rfl⟩ := Option.map_eq_some_iff.mp read
      exact List.forall_mem_cons.mpr ⟨(length_of_block? found).2, ih read_rest⟩
  | case3 => cases read

/-- A block whose length is a word is read back, and nothing behind it. -/
theorem blocks?_block (short : body.length < 65536) (behind : List UInt8) :
    blocks? (block body ++ behind) = (blocks? behind).map (body :: ·) := by
  have unfolded : block? (block body ++ behind) =
      Bytes.takeExact? (Bytes.wordValue (UInt8.ofNat body.length) (UInt8.ofNat (body.length / 256)))
        (body ++ behind) := rfl
  apply blocks?_of_block?
  rw [unfolded, Bytes.wordValue_ofNat short, Bytes.takeExact?_eq_some]
  exact ⟨rfl, rfl⟩

/-- A longer body is cut: what its word does not count stands behind the block. -/
theorem block_eq_cut (body : List UInt8) :
    block body =
      block (body.take (body.length % 65536)) ++ body.drop (body.length % 65536) := by
  have kept : (body.take (body.length % 65536)).length = body.length % 65536 :=
    List.length_take_of_le (Nat.mod_le _ _)
  rw [block, block, kept, Bytes.word_mod, List.append_assoc _ _ (body.drop _),
    List.take_append_drop]

/-- Blocks whose lengths are words are read back. -/
theorem blocks?_flatMap_block (short : ∀ body ∈ bodies, body.length < 65536) :
    blocks? (bodies.flatMap block) = some bodies := by
  induction bodies with
  | nil => exact blocks?_nil
  | cons body others ih =>
      rw [List.forall_mem_cons] at short
      rw [List.flatMap_cons, blocks?_block short.1, ih short.2, Option.map_some]

/-- A clamped size is from 1 to 16. -/
theorem clampSize_bounds (size : Int) : 1 ≤ clampSize size ∧ clampSize size ≤ 16 := by
  unfold clampSize
  omega

/-- A clamped size is a byte. -/
theorem lowByte_clampSize (size : Int) :
    ((Bytes.lowByte (clampSize size)).toNat : Int) = clampSize size := by
  have bounds := clampSize_bounds size
  unfold Bytes.lowByte
  rw [UInt8.toNat_ofNat']
  omega

/-- What the five blocks of a symbol say: its kind, the size of its modules, its level of error
correction, its data, and that it is printed. -/
def bodiesOf (model : Model) (moduleSize : UInt8) (data : List UInt8) : List (List UInt8) :=
  [[0x31, 0x41, model.code, 0x00], [0x31, 0x43, moduleSize], [0x31, 0x45, 0x30],
    0x31 :: 0x50 :: 0x30 :: data, [0x31, 0x51, 0x30]]

/-- A symbol is a block for each of its five bodies. -/
theorem symbol_eq (model : Model) (text : List Char) (moduleSize : Int) :
    symbol model text moduleSize =
      (bodiesOf model (Bytes.lowByte (clampSize moduleSize)) (Bytes.ofText text)).flatMap
        block := by
  simp only [symbol, selectModel, setModuleSize, setCorrection, store, print, bodiesOf,
    List.flatMap_cons, List.flatMap_nil, List.append_nil, List.append_assoc, List.cons_append,
    List.nil_append]

/-- The block of a text of 65533 bytes announces an empty body, and what stands behind that is no
block. -/
theorem blocks?_symbol_of_length {model : Model} {text : List Char} {moduleSize : Int}
    (size : (Bytes.ofText text).length = 65533) :
    blocks? (symbol model text moduleSize) = none := by
  have cut := block_eq_cut (0x31 :: 0x50 :: 0x30 :: Bytes.ofText text)
  simp only [List.length_cons, size, Nat.reduceAdd, Nat.reduceMod, List.take_zero, List.drop_zero]
    at cut
  have no_block : ∀ behind, blocks? (0x31 :: behind) = none :=
    fun _ => blocks?_of_block?_eq_none rfl
  rw [symbol_eq]
  simp only [bodiesOf, List.flatMap_cons, cut, List.append_assoc, List.cons_append]
  rw [blocks?_block (by simp), blocks?_block (by simp), blocks?_block (by simp),
    blocks?_block (by simp), no_block]
  rfl

/-- Whether the blocks of a symbol are read back: the five of them to the end of the bytes, with a
size that the printer accepts and with the bytes of the text. -/
def ReadsBack (model : Model) (text : List Char) (moduleSize : Int) : Prop :=
  ∃ size : UInt8, size.toNat = clampSize moduleSize ∧ 1 ≤ size.toNat ∧ size.toNat ≤ 16 ∧
    blocks? (symbol model text moduleSize) = some (bodiesOf model size (Bytes.ofText text))

/-- The symbol of a text is read back exactly if the text and the three bytes in front of it fit a
block. -/
theorem symbol_reads_back_iff (model : Model) (text : List Char) (moduleSize : Int) :
    ReadsBack model text moduleSize ↔ (Bytes.ofText text).length ≤ 65532 := by
  constructor
  · rintro ⟨size, -, -, -, read⟩
    have stored := length_of_blocks? read (0x31 :: 0x50 :: 0x30 :: Bytes.ofText text)
      (by simp [bodiesOf])
    simp only [List.length_cons] at stored
    omega
  · intro short
    have size_eq := lowByte_clampSize moduleSize
    have bounds := clampSize_bounds moduleSize
    refine ⟨_, size_eq, by omega, by omega, ?_⟩
    rw [symbol_eq]
    apply blocks?_flatMap_block
    simp only [bodiesOf, List.forall_mem_cons, List.length_cons, List.length_nil]
    exact ⟨by decide, by decide, by decide, by omega, by decide, List.forall_mem_nil _⟩

/-- A text of 65533 letters is not read back. -/
theorem long_text_not_read_back :
    ¬ ReadsBack .two (List.replicate 65533 'a') 4 := by
  have ascii : ∀ c ∈ List.replicate 65533 'a', c.toNat < 128 := by
    intro c mem
    rw [List.eq_of_mem_replicate mem]
    decide
  have size := (Text.length_ofText_of_ascii ascii).trans List.length_replicate
  rintro ⟨_, -, -, -, read⟩
  rw [blocks?_symbol_of_length size] at read
  cases read

end Receipt.Qr.Native
