import Assay.Proofs.Selection
import Assay.Proofs.Utf8

/-! # Stream filters see the raw bytes

A filter on a stream is asked of the decoded text, in which bytes that cannot be decoded
have been replaced.  Still it finds a pattern exactly where the bytes of the pattern stand
in the stream (`Text.contains_lossy_iff`), as long as the pattern has no replacement
character itself.

* An encoding is read as its character whatever stands before it, so what is encoded in
  the stream is found in the text (`Text.infix_lossy`).
* Characters that stand side by side in the decoded text, none of them a replacement,
  come from encodings that stand side by side (`Text.infix_of_pieces`).
-/

namespace Assay

namespace Text

open String (utf8EncodeChar)

/-! ## From bytes to text -/

/-- **What is encoded in the bytes stands in the decoded text**, whatever is before and
behind it. -/
theorem infix_lossy (cs : List Char) (before behind : Bytes) :
    cs <:+: lossyFrom none (before ++ cs.flatMap utf8EncodeChar ++ behind) := by
  cases cs with
  | nil => exact List.nil_infix
  | cons c cs =>
    rw [List.flatMap_cons, List.append_assoc, List.append_assoc,
      lossyFrom_append_encode (by simp), lossyFrom_flatMap_encode]
    exact ⟨lossyFrom none before, lossyFrom none behind, by simp⟩

/-! ## From text to bytes -/

theorem flatMap_bytes_of_shown {ps : List Piece} {cs : List Char} (hshown : ps.map Piece.shown = cs)
    (hcs : replacement ∉ cs) : ps.flatMap Piece.bytes = cs.flatMap utf8EncodeChar := by
  induction ps generalizing cs with
  | nil =>
    subst hshown
    rfl
  | cons x ps ih =>
    subst hshown
    rw [List.map_cons, List.mem_cons, not_or] at hcs
    rw [List.map_cons, List.flatMap_cons, List.flatMap_cons, ih rfl hcs.2]
    cases x with
    | whole c => rfl
    | scrap bs => exact absurd rfl hcs.1

/-- Characters side by side come from pieces side by side. -/
theorem infix_of_pieces {ps : List Piece} {cs : List Char} (hcs : replacement ∉ cs)
    (h : cs <:+: ps.map Piece.shown) : cs.flatMap utf8EncodeChar <:+: ps.flatMap Piece.bytes := by
  obtain ⟨xs, ys, hsplit⟩ := h
  obtain ⟨front, back, rfl, hfront, -⟩ := List.map_eq_append_iff.mp hsplit.symm
  obtain ⟨before, middle, rfl, -, hmiddle⟩ := List.map_eq_append_iff.mp hfront
  refine ⟨before.flatMap Piece.bytes, back.flatMap Piece.bytes, ?_⟩
  rw [← flatMap_bytes_of_shown hmiddle hcs, List.flatMap_append, List.flatMap_append]

/-- **A pattern without replacements is in the decoded text exactly if its bytes are in the
bytes.** -/
theorem contains_lossy_iff {pattern : String} (hpattern : replacement ∉ pattern.toList)
    (bs : Bytes) : contains (lossy bs) pattern = true ↔ utf8 pattern <:+: bs := by
  rw [contains_iff, lossy, String.toList_ofList]
  constructor
  · intro h
    obtain ⟨ps, hbytes, hshown⟩ := exists_pieces bs
    rw [← hshown] at h
    rw [← hbytes]
    exact infix_of_pieces hpattern h
  · rintro ⟨before, behind, rfl⟩
    exact infix_lossy pattern.toList before behind

end Text

namespace Policy

/-- **A stream filter sees the raw bytes.**  A policy with no filter but a pattern for one
of the streams accepts a call exactly if the encoded pattern stands in the bytes of that
stream as one piece, be these valid or not.  The pattern may be any text without the
character that stands for bytes that cannot be decoded. -/
theorem stream_filter_raw (pattern : String) (hpattern : Text.replacement ∉ pattern.toList)
    (log : InvocationLog) :
    (({ stdout := some pattern } : Policy).accepts log = true ↔
      Text.utf8 pattern <:+: log.output.stdout) ∧
    (({ stderr := some pattern } : Policy).accepts log = true ↔
      Text.utf8 pattern <:+: log.output.stderr) := by
  rw [← Text.contains_lossy_iff hpattern, ← Text.contains_lossy_iff hpattern]
  constructor
  · simp [accepts, Invocation.stdoutText]
  · simp [accepts, Invocation.stderrText]

/-- Between two sequences that break off, the pattern is found; of bytes that share its first
one only, it is not. -/
theorem stream_filter_raw_sample :
    let log : InvocationLog := ⟨"tool", ["tool"],
      ⟨0, [0xE2, 0x82, 0xC3, 0xA9, 0xF0, 0x9F], [0xC3, 0x28, 0xC3]⟩, .zero⟩
    Text.replacement ∉ "é".toList ∧
      ({ stdout := some "é" } : Policy).accepts log = true ∧
      ({ stderr := some "é" } : Policy).accepts log = false := by
  intro log
  have hpattern : Text.replacement ∉ "é".toList := by decide
  obtain ⟨hstdout, hstderr⟩ := stream_filter_raw "é" hpattern log
  refine ⟨hpattern, hstdout.mpr ⟨[0xE2, 0x82], [0xF0, 0x9F], by decide⟩, ?_⟩
  rw [← Bool.not_eq_true, hstderr]
  decide

/-- A replacement character in the pattern is found in the text of bytes that do not hold
its encoding. -/
example :
    let log : InvocationLog := ⟨"tool", ["tool"], ⟨0, [0xFF], []⟩, .zero⟩
    ({ stdout := some "\uFFFD" } : Policy).accepts log = true ∧
      ¬ Text.utf8 "\uFFFD" <:+: log.output.stdout := by decide

end Policy

end Assay
