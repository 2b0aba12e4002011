import Assay.Proofs.SummaryLines
import Assay.Proofs.Utf8
import Assay.Proofs.Verdict

/-! # Color is presentation only

Deleting color sequences does not in general go piece by piece: the end of one text and
the beginning of the next can make a sequence together, and a sequence put between them can
part one.  A text is *settled* if no sequence is open at its end; behind such a text,
deletion starts anew (`Paint.Settled`).

Whatever the texts of a report hold, the console puts a color sequence only right behind a
settled text: behind a space, a line feed, or the last letter of a status.  So the output
with color and the output without agree after deletion (`Console.color_is_presentation`).
-/

namespace Assay

open Text (line Ended ended_empty ended_line ended_join)

namespace Paint

/-! ## Deletion -/

/-- What stands at the head of a text if a color sequence does. -/
theorem afterSequence?_eq_some_iff {cs tail : List Char} :
    afterSequence? cs = some tail ↔
      ∃ codes, (∀ c ∈ codes, isParameter c = true) ∧
        cs = escape :: '[' :: (codes ++ 'm' :: tail) := by
  constructor
  · intro h
    unfold afterSequence? at h
    split at h
    · rename_i c rest
      split at h
      · rename_i hescape
        split at h
        · rename_i tail' hrest
          obtain rfl : tail' = tail := Option.some.inj h
          refine ⟨rest.takeWhile isParameter, fun c hc => List.mem_takeWhile_imp hc, ?_⟩
          rw [hescape, ← hrest, List.takeWhile_append_dropWhile]
        · cases h
      · cases h
    · cases h
  · rintro ⟨codes, hcodes, rfl⟩
    have hrest : (codes ++ 'm' :: tail).dropWhile isParameter = 'm' :: tail :=
      List.dropWhile_append_of_pos hcodes
    simp only [afterSequence?, if_true, hrest]

theorem stripFrom_eq_drop (skip : Nat) (cs : List Char) :
    stripFrom skip cs = stripFrom 0 (cs.drop skip) := by
  induction cs generalizing skip with
  | nil => simp [stripFrom]
  | cons c cs ih =>
    cases skip with
    | zero => rfl
    | succ skip => rw [stripFrom, ih, List.drop_succ_cons]

theorem stripFrom_cons {c : Char} {cs : List Char} (h : afterSequence? (c :: cs) = none) :
    stripFrom 0 (c :: cs) = c :: stripFrom 0 cs := by
  rw [stripFrom, h]

/-- A sequence is deleted as a whole. -/
theorem stripFrom_sequence {cs tail : List Char} (h : afterSequence? cs = some tail) :
    stripFrom 0 cs = stripFrom 0 tail := by
  obtain ⟨codes, -, rfl⟩ := afterSequence?_eq_some_iff.mp h
  rw [stripFrom, h]
  dsimp only
  have hsplit : '[' :: (codes ++ 'm' :: tail) = ('[' :: codes ++ ['m']) ++ tail := by simp
  have hdrop : ('[' :: (codes ++ 'm' :: tail)).length - tail.length = ('[' :: codes ++ ['m']).length := by
    rw [hsplit, List.length_append, Nat.add_sub_cancel]
  rw [stripFrom_eq_drop, hdrop, hsplit, List.drop_left]

/-! ## Settled texts -/

/-- The character has no place in a color sequence before its end. -/
def Closes (c : Char) : Prop := c ≠ escape ∧ c ≠ '[' ∧ isParameter c = false

instance (c : Char) : Decidable (Closes c) := inferInstanceAs (Decidable (_ ∧ _))

/-- A sequence at the head of a text that has such a character ends within the text. -/
theorem Closes.afterSequence?_append {c : Char} (hc : Closes c) {cs : List Char} (hmem : c ∈ cs)
    (rest : List Char) :
    afterSequence? (cs ++ rest) = (afterSequence? cs).map (· ++ rest) := by
  cases hcs : afterSequence? cs with
  | some tail =>
    obtain ⟨codes, hcodes, rfl⟩ := afterSequence?_eq_some_iff.mp hcs
    exact afterSequence?_eq_some_iff.mpr ⟨codes, hcodes, by simp⟩
  | none =>
    rw [Option.map_none, Option.eq_none_iff_forall_ne_some]
    intro tail htail
    obtain ⟨codes, hcodes, hsplit⟩ := afterSequence?_eq_some_iff.mp htail
    obtain ⟨hescape, hbracket, hparameter⟩ := hc
    have hopen : c ∉ escape :: '[' :: codes := by
      simp only [List.mem_cons, not_or]
      refine ⟨hescape, hbracket, fun hcode => ?_⟩
      rw [hcodes c hcode] at hparameter
      cases hparameter
    -- the text goes beyond what a sequence has before its end, so it has the `m` too
    have hsplit : cs ++ rest = (escape :: '[' :: codes) ++ 'm' :: tail := hsplit
    rcases List.append_eq_append_iff.mp hsplit with ⟨more, hmore, -⟩ | ⟨more, rfl, hmore⟩
    · exact hopen (hmore ▸ List.mem_append_left more hmem)
    · cases more with
      | nil => exact hopen (by simpa using hmem)
      | cons m more =>
        obtain ⟨rfl, -⟩ := List.cons.inj hmore
        have hsome := afterSequence?_eq_some_iff.mpr ⟨codes, hcodes, (rfl :
          (escape :: '[' :: codes) ++ 'm' :: more = _)⟩
        rw [hsome] at hcs
        cases hcs

/-- No color sequence is open at the end of the text: deletion starts anew behind it. -/
def Settled (s : String) : Prop := ∀ rest, strip (s ++ rest) = strip s ++ strip rest

/-- Behind a character that closes, deletion starts anew. -/
theorem stripFrom_concat_append {c : Char} (hc : Closes c) (cs rest : List Char) :
    stripFrom 0 (cs ++ [c] ++ rest) = stripFrom 0 (cs ++ [c]) ++ stripFrom 0 rest := by
  induction hlength : cs.length using Nat.strong_induction_on generalizing cs with
  | _ n ih =>
    have happend := hc.afterSequence?_append (List.mem_append_right cs (List.mem_singleton_self c)) rest
    cases hcs : afterSequence? (cs ++ [c]) with
    | none =>
      rw [hcs, Option.map_none] at happend
      cases cs with
      | nil =>
        simp only [List.nil_append, List.cons_append] at happend hcs ⊢
        rw [stripFrom_cons happend, stripFrom_cons hcs]
        rfl
      | cons x cs =>
        simp only [List.cons_append] at happend hcs ⊢
        rw [stripFrom_cons happend, stripFrom_cons hcs, ih cs.length (by simp [← hlength]) cs rfl,
          List.cons_append]
    | some tail =>
      rw [hcs, Option.map_some] at happend
      rw [stripFrom_sequence happend, stripFrom_sequence hcs]
      obtain ⟨codes, -, hsplit⟩ := afterSequence?_eq_some_iff.mp hcs
      -- the rest of the text is empty or ends as the text does
      rcases List.eq_nil_or_concat tail with rfl | ⟨front, d, rfl⟩
      · rfl
      · rw [List.concat_eq_append] at hsplit ⊢
        have hboth : cs ++ [c] = (escape :: '[' :: (codes ++ 'm' :: front)) ++ [d] := by
          rw [hsplit]
          simp
        obtain ⟨hfront, hlast⟩ := List.append_inj' hboth rfl
        obtain rfl : c = d := by simpa using hlast
        refine ih front.length ?_ front rfl
        simp only [← hlength, hfront, List.length_cons, List.length_append]
        omega

theorem settled_of_last {s : String} {c : Char} (hlast : s.toList.getLast? = some c)
    (hc : Closes c) : Settled s := by
  intro rest
  obtain ⟨cs, hcs⟩ := List.getLast?_eq_some_iff.mp hlast
  rw [strip, strip, strip, String.toList_append, hcs, stripFrom_concat_append hc,
    String.ofList_append]

/-- What a text begins with plays no part in how it ends. -/
theorem settled_append_of_last (s : String) {t : String} {c : Char}
    (hlast : t.toList.getLast? = some c) (hc : Closes c) : Settled (s ++ t) := by
  refine settled_of_last ?_ hc
  rw [String.toList_append, List.getLast?_append, hlast, Option.some_or]

theorem settled_empty : Settled "" := fun rest => by
  simp [strip, stripFrom]

theorem Settled.append {s t : String} (hs : Settled s) (ht : Settled t) : Settled (s ++ t) := by
  intro rest
  rw [String.append_assoc, hs, ht, hs, String.append_assoc]

theorem settled_of_ended {s : String} (h : Ended s) : Settled s := by
  rcases h with rfl | ⟨t, rfl⟩
  · exact settled_empty
  · exact settled_append_of_last (c := '\n') t rfl (by decide)

/-! ## Texts that differ in color only -/

/-- Two settled texts are the same when color sequences are deleted. -/
structure Alike (s t : String) : Prop where
  left : Settled s
  right : Settled t
  strip : strip s = strip t

namespace Alike

theorem refl {s : String} (hs : Settled s) : Alike s s := ⟨hs, hs, rfl⟩

theorem append {s t s' t' : String} (h : Alike s t) (h' : Alike s' t') : Alike (s ++ s') (t ++ t') := by
  refine ⟨h.left.append h'.left, h.right.append h'.right, ?_⟩
  rw [h.left, h.right, h.strip, h'.strip]

theorem of_ended {s : String} (h : Ended s) : Alike s s := refl (settled_of_ended h)

theorem join {ss ts : List String} (h : List.Forall₂ Alike ss ts) :
    Alike (String.join ss) (String.join ts) :=
  Text.join_related (refl settled_empty) append h

theorem join_map {α : Type} {f g : α → String} (h : ∀ x, Alike (f x) (g x)) (xs : List α) :
    Alike (String.join (xs.map f)) (String.join (xs.map g)) :=
  Text.join_map_related (refl settled_empty) append fun x _ => h x

theorem line {s t : String} (h : Alike s t) : Alike (line s) (line t) :=
  h.append (refl (settled_of_last (c := '\n') rfl (by decide)))

end Alike

/-- A color sequence is deleted, wherever it is put behind a settled text. -/
theorem alike_sequence {code : String} (hcode : code.toList.all isParameter = true) :
    Alike ("\x1b[" ++ code ++ "m") "" := by
  refine ⟨settled_append_of_last (c := 'm') _ rfl (by decide), settled_empty, ?_⟩
  have hsequence : afterSequence? ("\x1b[" ++ code ++ "m").toList = some [] :=
    afterSequence?_eq_some_iff.mpr ⟨code.toList, List.all_eq_true.mp hcode, by simp [escape]⟩
  rw [Paint.strip, stripFrom_sequence hsequence]
  rfl

/-- **Painting a settled text makes no difference.** -/
theorem alike_paint {code text : String} (hcode : code.toList.all isParameter = true)
    (htext : Settled text) (color : Bool) : Alike (paint color code text) text := by
  cases color with
  | false => exact .refl htext
  | true =>
    have hreset : Alike ("\x1b[" ++ "0" ++ "m") "" := alike_sequence (by decide)
    have h := ((alike_sequence hcode).append (.refl htext)).append hreset
    simpa [paint, String.append_assoc] using h

end Paint

open Paint

/-! ## The summary -/

theorem CaseStatus.alike_render (status : CaseStatus) (color : Bool) :
    Alike (status.render color) (status.render false) := by
  cases status with
  | notRun => exact alike_paint (by decide) (settled_of_last (c := 'N') rfl (by decide)) color
  | passed => exact alike_paint (by decide) (settled_of_last (c := 'D') rfl (by decide)) color
  | failed => exact alike_paint (by decide) (settled_of_last (c := 'D') rfl (by decide)) color

/-- The space keeps what the label may end with away from the status. -/
theorem alike_behind_label {s t : String} (label : String) (h : Alike s t) :
    Alike (label ++ " " ++ s) (label ++ " " ++ t) :=
  (Alike.refl (settled_append_of_last (c := ' ') label rfl (by decide))).append h

theorem alike_statusLine (label : String) (status : CaseStatus) (color : Bool) :
    Alike (statusLine label status color) (statusLine label status false) :=
  (alike_behind_label label (status.alike_render color)).line

variable (color verbose : Bool)

theorem CaseReport.alike_renderSummary (case : CaseReport) :
    Alike (case.renderSummary ⟨color, verbose⟩) (case.renderSummary ⟨false, verbose⟩) := by
  refine (alike_statusLine _ _ _).append (.of_ended ?_)
  split
  · refine (ended_join (fun _ => ended_line _) _).append ?_
    split
    · exact case.adds_renderInvocations.right
    · exact ended_empty
  · exact ended_empty

theorem RunReport.alike_renderSummary (r : RunReport) :
    Alike (r.renderSummary ⟨color, verbose⟩) (r.renderSummary ⟨false, verbose⟩) := by
  refine (((Alike.of_ended (ended_line _)).append ?_).append ?_).append (.of_ended ?_)
  · exact .join_map (fun case => case.alike_renderSummary color verbose) _
  · exact .join_map (fun label => alike_statusLine label _ color) _
  · split
    · exact ended_line _
    · exact ended_empty

/-! ## The console -/

namespace Console

theorem alike_footer (r : RunReport) :
    Alike (footer r ⟨color, verbose⟩) (footer r ⟨false, verbose⟩) := by
  refine (alike_paint ?_ (settled_append_of_last (c := '=') _ rfl (by decide)) color).line
  split <;> decide

/-- The texts of an event, with color and without. -/
theorem alike_pieces (e : Event) :
    List.Forall₂ Alike (pieces ⟨color, verbose⟩ e) (pieces ⟨false, verbose⟩ e) := by
  cases e with
  | runStart cases =>
    let title := banner ++ " conformance run starts " ++ banner
    have htitle : Alike (paint color "1" title) title :=
      alike_paint rfl (settled_append_of_last (c := '=') _ rfl (by decide)) color
    exact .cons htitle.line (.cons (.of_ended (ended_line _)) (.cons (.of_ended (ended_line _)) .nil))
  | caseComplete case =>
    have hstatus := alike_behind_label case.label (case.status.alike_render color)
    have hmillis : Settled (" (" ++ toString case.duration.millis ++ "ms)") :=
      settled_append_of_last (c := ')') _ rfl (by decide)
    refine .cons (Alike.line ?_) .nil
    cases verbose with
    | false => exact hstatus
    | true => simpa [String.append_assoc] using hstatus.append (.refl hmillis)
  | caseDeselected case =>
    cases verbose with
    | false => exact .nil
    | true =>
      have hpaint : Alike (paint color "33" "DESELECTED") "DESELECTED" :=
        alike_paint rfl (settled_of_last (c := 'D') rfl (by decide)) color
      exact .cons (alike_behind_label case.label hpaint).line .nil
  | runComplete report =>
    exact .cons (.of_ended (ended_line _)) (.cons (report.alike_renderSummary color verbose)
      (.cons (alike_footer color verbose report) .nil))

/-- From one event to the next, nothing is open: each ends with a line feed. -/
theorem alike_flatMap_pieces (events : List Event) :
    List.Forall₂ Alike (events.flatMap (pieces ⟨color, verbose⟩))
      (events.flatMap (pieces ⟨false, verbose⟩)) := by
  induction events with
  | nil => exact .nil
  | cons e es ih => exact List.rel_append (alike_pieces color verbose e) ih

/-- **Color is presentation only.**  Events are told to the console, any events in any
order, once with color and once without.  Both times all of them are written, as the bytes
of a text; and the two texts are the same when color sequences are deleted, whatever
sequences or parts of such the reports themselves hold. -/
theorem color_is_presentation (events : List Event) (verbose : Bool) :
    let told (color : Bool) := (reporter ⟨color, verbose⟩).tellAll events {}
    let text (color : Bool) := Text.lossy (told color).2.written
    (∀ color, (told color).1 = .ok () ∧ (told color).2.written = Text.utf8 (text color)) ∧
      strip (text true) = strip (text false) := by
  intro told text
  have htold : ∀ color, told color =
      (.ok (), { written := (Channel.console ⟨color, verbose⟩).output events }) := fun color =>
    (Channel.tellAll (.console ⟨color, verbose⟩) events {}).trans (Sink.write_unlimited _)
  have htext : ∀ color, text color = String.join (events.flatMap (pieces ⟨color, verbose⟩)) := by
    intro color
    change Text.lossy (told color).2.written = _
    rw [htold, Channel.output_eq, Text.lossy_utf8]
    rfl
  refine ⟨fun color => ⟨by rw [htold], ?_⟩, ?_⟩
  · rw [htext, htold, Channel.output_eq]
    rfl
  · rw [htext, htext]
    exact (Alike.join (alike_flatMap_pieces true verbose events)).strip

/-- A status that stood right behind the label would not do: the end of the label and the
status can make a sequence, which color parts. -/
example : strip ("\x1b[3" ++ paint true "1" "m") = "\x1b[3m" ∧ strip ("\x1b[3" ++ "m") = "" := by
  decide

end Console

end Assay
