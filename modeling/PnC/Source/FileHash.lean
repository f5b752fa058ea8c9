import PnC.Source.FileSystem

/-!
# The loops of sha256_file

sha256_file reads 65536 bytes at a time and adds up what it has read; the last read
comes up short and is taken in behind the loop. file.read fills the buffer except at
the end of the file, and gcount is the number of bytes it stored.
-/
namespace PnC.Source

namespace Sha256Context

/-! ## The buffering loop over two pieces -/

theorem memcpy_append (first second : List UInt8) (block : Vector UInt8 64) (offset : Nat) :
    memcpy block offset (first ++ second) =
      memcpy (memcpy block offset first) (offset + first.length) second := by
  induction first generalizing block offset with
  | nil => rfl
  | cons byte first ih =>
    rw [List.cons_append, memcpy, memcpy, ih, List.length_cons, Nat.add_assoc,
      Nat.add_comm 1]

section Buffering
variable {σ : Type} {transform : σ → Vector UInt8 64 → σ} {c : Sha256Context σ}

theorem bufferBytes_nil (transform : σ → Vector UInt8 64 → σ) (c : Sha256Context σ) :
    c.bufferBytes transform [] = c := by
  rw [bufferBytes, if_pos rfl]

theorem bufferBytes_chunk {rest : List UInt8} (more : rest ≠ []) :
    c.bufferBytes transform rest =
      (c.bufferChunk transform (rest.take (min rest.length (64 - c.buffered)))).bufferBytes
        transform (rest.drop (min rest.length (64 - c.buffered))) := by
  rw [bufferBytes, if_neg more]

/-- A chunk that leaves room may be stored in two parts. -/
theorem bufferChunk_append (first second : List UInt8)
    (room : c.buffered + first.length < 64) :
    c.bufferChunk transform (first ++ second) =
      (c.bufferChunk transform first).bufferChunk transform second := by
  have stored : c.bufferChunk transform first =
      ⟨c.state, memcpy c.block c.buffered first, c.buffered + first.length, room⟩ := dif_pos room
  rw [stored]
  unfold bufferChunk
  simp only [memcpy_append, List.length_append, Nat.add_assoc]

/-- Bytes that leave room are stored by one chunk. -/
theorem bufferBytes_short {bytes : List UInt8} (room : c.buffered + bytes.length < 64) :
    c.bufferBytes transform bytes = c.bufferChunk transform bytes := by
  by_cases more : bytes = []
  · subst more
    rw [bufferBytes_nil, bufferChunk, dif_pos room]
    rfl
  · rw [bufferBytes_chunk more, Nat.min_eq_left (by omega), List.take_length, List.drop_length,
      bufferBytes_nil]

/-- After bytes that leave room the next ones go on in the same block. -/
theorem bufferBytes_append_short {first : List UInt8} (second : List UInt8)
    (room : c.buffered + first.length < 64) :
    c.bufferBytes transform (first ++ second) =
      (c.bufferBytes transform first).bufferBytes transform second := by
  by_cases more : second = []
  · rw [more, List.append_nil, bufferBytes_nil]
  · have stored : c.bufferChunk transform first =
        ⟨c.state, memcpy c.block c.buffered first, c.buffered + first.length, room⟩ := dif_pos room
    have nonempty := List.length_pos_iff.mpr more
    have cut : min (first ++ second).length (64 - c.buffered) =
        first.length + min second.length (64 - (c.buffered + first.length)) := by
      rw [List.length_append]
      omega
    rw [bufferBytes_short room, bufferBytes_chunk (by simp [more]), bufferBytes_chunk more, cut,
      List.take_length_add_append, List.drop_length_add_append, bufferChunk_append _ _ room, stored]

/-- Two pieces are taken in like the whole: the chunks are cut at the same places, but for
the one that the first piece ends in. -/
theorem bufferBytes_append (transform : σ → Vector UInt8 64 → σ) (c : Sha256Context σ)
    (first second : List UInt8) :
    c.bufferBytes transform (first ++ second) =
      (c.bufferBytes transform first).bufferBytes transform second := by
  induction size : first.length using Nat.strongRecOn generalizing c first with
  | ind size ih =>
    by_cases room : c.buffered + first.length < 64
    · exact bufferBytes_append_short second room
    · have inside := c.room
      have cut : min first.length (64 - c.buffered) = 64 - c.buffered := by omega
      have cutBoth : min (first ++ second).length (64 - c.buffered) = 64 - c.buffered := by
        rw [List.length_append]
        omega
      have more : first ≠ [] := by
        rintro rfl
        exact room inside
      rw [bufferBytes_chunk (by simp [more]), cutBoth, List.take_append_of_le_length (by omega),
        List.drop_append_of_le_length (by omega), bufferBytes_chunk more, cut]
      exact ih _ (by rw [List.length_drop]; omega) _ _ rfl

end Buffering

end Sha256Context

/-- The locals of sha256_file between two reads. -/
structure FileHash (σ : Type) where
  context : Sha256Context σ
  total : UInt64

namespace FileHash

open Sha256Context

section Reads
variable {σ : Type} (transform : σ → Vector UInt8 64 → σ)

/-- What is done with the bytes of one read, in the loop as behind it. -/
def takeIn (s : FileHash σ) (bytes : List UInt8) : FileHash σ :=
  ⟨s.context.bufferBytes transform bytes, s.total + UInt64.ofNat bytes.length⟩

/-- The while loop, with `rest` still to read; the read that ends it stores what there is
and fails. -/
def readLoop (s : FileHash σ) (rest : List UInt8) : FileHash σ × List UInt8 :=
  if rest.length < 65536 then (s, rest)
  else readLoop (s.takeIn transform (rest.take 65536)) (rest.drop 65536)
termination_by rest.length
decreasing_by
  rw [List.length_drop]
  omega

/-- The body of sha256_file up to the printing. -/
def hashFile (state : σ) (content : List UInt8) : σ :=
  let (s, last) := readLoop transform ⟨.new state, 0⟩ content
  let s := if 0 < last.length then s.takeIn transform last else s
  s.context.finish transform (s.total * 8)

end Reads

/-! ## What the loops take in -/

section Reads
variable {σ : Type} {transform : σ → Vector UInt8 64 → σ}

theorem takeIn_nil (s : FileHash σ) : s.takeIn transform [] = s := by
  rw [takeIn, bufferBytes_nil, List.length_nil]
  exact congrArg (FileHash.mk s.context) (UInt64.add_zero s.total)

theorem takeIn_append (s : FileHash σ) (first second : List UInt8) :
    s.takeIn transform (first ++ second) =
      (s.takeIn transform first).takeIn transform second := by
  simp only [takeIn, bufferBytes_append, List.length_append, UInt64.ofNat_add, UInt64.add_assoc]

/-- With the last read the loop has taken in all there was to read. -/
theorem takeIn_readLoop (transform : σ → Vector UInt8 64 → σ) (s : FileHash σ) (rest : List UInt8) :
    (readLoop transform s rest).1.takeIn transform (readLoop transform s rest).2 =
      s.takeIn transform rest := by
  fun_induction readLoop transform s rest with
  | case1 s rest short => rfl
  | case2 s rest long ih =>
    rw [ih, ← takeIn_append, List.take_append_drop]

/-- The loops of sha256_file come to what the one loop of sha256_bytes does. -/
theorem hashFile_eq_hashBytes (transform : σ → Vector UInt8 64 → σ) (state : σ)
    (content : List UInt8) :
    hashFile transform state content = hashBytes transform state content := by
  have all := takeIn_readLoop transform ⟨.new state, 0⟩ content
  have tail : ∀ (s : FileHash σ) (last : List UInt8),
      (if 0 < last.length then s.takeIn transform last else s) = s.takeIn transform last := by
    intro s last
    split
    next => rfl
    next none =>
      have empty : last = [] := List.length_eq_zero_iff.mp (by omega)
      rw [empty, takeIn_nil]
  unfold hashFile hashBytes
  dsimp only
  rw [tail, all, takeIn, UInt64.zero_add]

end Reads

end FileHash

/-- sha256_file, on what its ifstream has opened. -/
def sha256FileOpened : Option (List UInt8) → String
  | none => ""
  | some content =>
    printState (FileHash.hashFile Sha256Impl.transform initialState content)

/-- The reads of 65536 bytes make no difference to the buffering. -/
theorem Sha256Context.bufferReads_eq {σ : Type} (transform : σ → Vector UInt8 64 → σ)
    (c : Sha256Context σ) (rest : List UInt8) :
    c.bufferReads transform rest = c.bufferBytes transform rest := by
  fun_induction bufferReads transform c rest with
  | case1 c rest short => rfl
  | case2 c rest long ih => rw [ih, ← bufferBytes_append, List.take_append_drop]

theorem sha256Stream_eq (content : List UInt8) : sha256Stream content = sha256Bytes content := by
  rw [sha256Stream, Sha256Context.bufferReads_eq]
  rfl

end PnC.Source
