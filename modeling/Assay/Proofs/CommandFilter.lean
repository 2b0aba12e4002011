import Assay.Proofs.Program
import Assay.Proofs.Selection

/-! # A command filter without spaces matches within one word

A filter on the command is asked of the words joined by single spaces.  A pattern without a
space cannot reach over such a space (`Text.infix_append_cons_iff`), and so it is found in
the joined text exactly if it is found in one of the words
(`Text.infix_intercalate_iff`), be these empty or with spaces of their own.  Which words
there are is read off the template (`Template.mem_render_iff`); in what order they stand
plays no part.
-/

namespace Assay

namespace Text

variable {α : Type} {p : List α}

/-- Without the separator, a piece of the whole lies on one side of it. -/
theorem infix_append_cons_iff {sep : α} (h : sep ∉ p) (xs ys : List α) :
    p <:+: xs ++ sep :: ys ↔ p <:+: xs ∨ p <:+: ys := by
  constructor
  · intro hp
    rcases List.infix_append_iff.mp hp with hxs | hys | ⟨front, back, rfl, hfront, hback⟩
    · exact .inl hxs
    · rcases List.infix_cons_iff.mp hys with hhead | htail
      · rcases List.prefix_cons_iff.mp hhead with rfl | ⟨rest, rfl, -⟩
        · exact .inl List.nil_infix
        · exact absurd List.mem_cons_self h
      · exact .inr htail
    · -- a piece that begins before the separator has ended before it
      rcases List.prefix_cons_iff.mp hback with rfl | ⟨rest, rfl, -⟩
      · rw [List.append_nil]
        exact .inl hfront.isInfix
      · exact absurd (List.mem_append_right front List.mem_cons_self) h
  · rintro (hxs | hys)
    · exact hxs.trans (List.prefix_append xs _).isInfix
    · exact hys.trans ((List.suffix_cons sep ys).trans (List.suffix_append xs _)).isInfix

/-- **Without the separator, a piece of the joined words is a piece of one word.** -/
theorem infix_intercalate_iff {sep : α} (h : sep ∉ p) {words : List (List α)}
    (hne : words ≠ []) : p <:+: [sep].intercalate words ↔ ∃ word ∈ words, p <:+: word := by
  induction words with
  | nil => exact absurd rfl hne
  | cons word words ih =>
    cases words with
    | nil => simp
    | cons next rest =>
      rw [List.intercalate_cons_cons, List.append_assoc, List.singleton_append,
        infix_append_cons_iff h, ih (List.cons_ne_nil next rest), ← List.exists_mem_cons_iff]

end Text

namespace Template

/-- The word comes from a literal, an input or a trailing flag that the template has a place
for. -/
def Supplies (t : Template) (args : ToolArgs) (word : String) : Prop :=
  .literal word ∈ t.tokens ∨ (.inputs ∈ t.tokens ∧ word ∈ args.inputs) ∨
    (.trailing ∈ t.tokens ∧ word ∈ args.trailing)

theorem mem_render_iff {t : Template} {args : ToolArgs} {word : String} :
    word ∈ t.render args ↔ t.Supplies args word := by
  unfold render Supplies
  rw [List.mem_flatMap]
  constructor
  · rintro ⟨token, htoken, hword⟩
    cases token with
    | literal text =>
      obtain rfl := List.mem_singleton.mp hword
      exact .inl htoken
    | inputs => exact .inr (.inl ⟨htoken, hword⟩)
    | trailing => exact .inr (.inr ⟨htoken, hword⟩)
  · rintro (hliteral | ⟨hinputs, hword⟩ | ⟨htrailing, hword⟩)
    · exact ⟨_, hliteral, List.mem_singleton_self word⟩
    · exact ⟨_, hinputs, hword⟩
    · exact ⟨_, htrailing, hword⟩

end Template

theorem Tool.commandLine_eq_ok_iff {t : Tool} {args : ToolArgs} {command : List String} :
    t.commandLine args = .ok command ↔ t.template.render args = command ∧ command ≠ [] := by
  unfold commandLine
  split
  · rename_i hrender
    rw [hrender]
    constructor
    · intro h
      cases h
    · rintro ⟨rfl, hne⟩
      exact absurd rfl hne
  · rename_i hne
    constructor
    · intro h
      cases h
      exact ⟨rfl, hne⟩
    · rintro ⟨rfl, -⟩
      rfl

namespace Policy

theorem accepts_command_iff {pattern : String} {log : InvocationLog} :
    ({ command := some pattern } : Policy).accepts log = true ↔
      pattern.toList <:+: log.commandLine.toList := by
  rw [← Text.contains_iff]
  simp [accepts]

/-- A pattern without spaces is looked for in each word of a command by itself. -/
theorem accepts_command_iff_word {pattern : String} (hpattern : ' ' ∉ pattern.toList)
    {log : InvocationLog} (hne : log.command ≠ []) :
    ({ command := some pattern } : Policy).accepts log = true ↔
      ∃ word ∈ log.command, pattern.toList <:+: word.toList := by
  have hwords : log.command.map String.toList ≠ [] := by simpa using hne
  rw [accepts_command_iff, InvocationLog.commandLine, String.toList_intercalate,
    show " ".toList = [' '] from rfl, Text.infix_intercalate_iff hpattern hwords]
  simp only [List.mem_map, exists_exists_and_eq_and]

/-- **A command filter without spaces matches within one word.**  A tool is given, with
arguments that its template renders to a command, and a pattern without a space.  A policy
with no filter but this one accepts a call with that command exactly if the pattern is a
substring of one of its words, and these are the literals, inputs and trailing flags that
the template has a place for.  The calls of the tool have that command; and to put its words
in another order changes nothing. -/
theorem command_filter_in_word {σ : Type} (tool : Tool) (args : ToolArgs) (command : List String)
    (hcommand : tool.commandLine args = .ok command)
    (pattern : String) (hpattern : ' ' ∉ pattern.toList) :
    let policy : Policy := { command := some pattern }
    (∀ log : InvocationLog, log.command = command →
      (policy.accepts log = true ↔ ∃ word ∈ command, pattern.toList <:+: word.toList)) ∧
    (∀ word, word ∈ command ↔ tool.template.Supplies args word) ∧
    (∀ (host : Host σ) (w after : World σ) (log : InvocationLog),
      tool.call host args w = .ok (log, after) → log.command = command) ∧
    (∀ log other : InvocationLog, log.command = command → other.command.Perm command →
      policy.accepts other = policy.accepts log) := by
  intro policy
  obtain ⟨hrender, hne⟩ := Tool.commandLine_eq_ok_iff.mp hcommand
  refine ⟨?_, ?_, ?_, ?_⟩
  · rintro log rfl
    exact accepts_command_iff_word hpattern hne
  · intro word
    rw [← hrender]
    exact Template.mem_render_iff
  · intro host w after log hcall
    obtain ⟨program, rest, done, hcalled, -, rfl⟩ := Tool.call_ok hcall
    exact hcalled.symm.trans hrender
  · rintro log other rfl hperm
    have hother : other.command ≠ [] := fun hnil => hne (hnil ▸ hperm).nil_eq.symm
    rw [Bool.eq_iff_iff, accepts_command_iff_word hpattern hother,
      accepts_command_iff_word hpattern hne]
    simp only [hperm.mem_iff]

/-- A pattern that is found in an input with spaces, beside an empty literal and flags. -/
theorem command_filter_in_word_sample :
    let tool : Tool := ⟨"cc", ⟨[.literal "cc", .inputs, .literal "", .trailing]⟩, [], none⟩
    let args : ToolArgs := ⟨["a b.cpp"], ["-w"]⟩
    let log : InvocationLog := ⟨"cc", ["cc", "a b.cpp", "", "-w"], ⟨0, [], []⟩, .zero⟩
    tool.commandLine args = .ok log.command ∧ ' ' ∉ "b.c".toList ∧
      ({ command := some "b.c" } : Policy).accepts log = true ∧
      ({ command := some "cca" } : Policy).accepts log = false := by
  intro tool args log
  have hcommand : tool.commandLine args = .ok log.command := rfl
  have hfound : ' ' ∉ "b.c".toList := by decide
  have hmissed : ' ' ∉ "cca".toList := by decide
  obtain ⟨hin, -, -, -⟩ :=
    command_filter_in_word (σ := Unit) tool args log.command hcommand "b.c" hfound
  obtain ⟨hout, -, -, -⟩ :=
    command_filter_in_word (σ := Unit) tool args log.command hcommand "cca" hmissed
  have hwithin : "b.c".toList <:+: "a b.cpp".toList := ⟨"a ".toList, "pp".toList, by decide⟩
  refine ⟨hcommand, hfound, (hin log rfl).mpr ⟨"a b.cpp", by simp [log], hwithin⟩, ?_⟩
  rw [← Bool.not_eq_true, hout log rfl]
  simp only [← Text.contains_iff]
  decide

/-- With a space in it, a pattern may lie across two words. -/
example :
    let log : InvocationLog := ⟨"cc", ["cc", "-w"], ⟨0, [], []⟩, .zero⟩
    ({ command := some "c -" } : Policy).accepts log = true ∧
      ∀ word ∈ log.command, ¬ "c -".toList <:+: word.toList := by decide

end Policy

end Assay
