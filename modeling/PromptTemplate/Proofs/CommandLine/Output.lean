import PromptTemplate.Proofs.CommandLine.Flags
import PromptTemplate.Proofs.CommandLine.Outcome
import PromptTemplate.Proofs.Cost.Billing

set_option autoImplicit false

namespace PromptTemplate.CommandLine

/-- The lines to write are the units, whichever of the two are asked for. -/
theorem promptLines_expand (execution : Bool) (settings : Settings) (catalog : Catalog) (prompt : Text) :
    promptLines execution (expand settings catalog prompt) = (expand settings catalog prompt).units := by
  cases execution with
  | false => rfl
  | true =>
      simp only [promptLines, executionPrompts_expand, if_true, List.map_map]
      exact List.map_id _

namespace Session

end Session

/-- A run that expands its prompt has ended with an exit code and an output. With zero the units were loaded for, valid
and all written; otherwise nothing was written, because the expansion is invalid or something was refused. -/
structure FailsClosed (host : Host) (arguments : Arguments) (exit : Nat) (output : Text) : Prop where
  exit_le : exit ≤ 2
  silent : exit ≠ 0 → output = []
  written : exit = 0 → ∃ settings expansion, Expands host arguments settings expansion ∧ expansion.isValid = true ∧
    output = linesText expansion.units
  invalid : exit = 1 → ∃ settings expansion, Expands host arguments settings expansion ∧ expansion.isValid = false
  refused : exit = 2 → ∃ breakage, Rejects host arguments breakage

/-- A run has broken off at a unit that the stream of the output refused, behind all units before it. -/
def CutShort (host : Host) (arguments : Arguments) (breakage : Breakage) (output : Text) : Prop :=
  ∃ settings expansion taken unit, Expands host arguments settings expansion ∧ expansion.isValid = true ∧
    expansion.units[taken]? = some unit ∧ output = linesText (expansion.units.take taken) ∧
    host.takes output (unit ++ ['\n']) = false ∧ breakage = .output (unit ++ ['\n'])

/-- Two command lines that are both understood, on which runs write the same and end in the same way. -/
def RunAlike (host : Host) (texts others : List Text) : Prop :=
  ∃ arguments other, Arguments.ofTexts texts = .ok arguments ∧ Arguments.ofTexts others = .ok other ∧
    Session.ofArguments host arguments = Session.ofArguments host other ∧ run host texts = run host others

variable {host : Host} {arguments : Arguments}

theorem linesText_eq_flatten (lines : List Text) : linesText lines = (lines.map (· ++ ['\n'])).flatten :=
  List.flatMap_def

/-- How a run that expands its prompt may end. -/
inductive Closes (host : Host) (arguments : Arguments) : Ended → Prop
  | returned {exit : Nat} {transcript : Transcript} (closed : FailsClosed host arguments exit transcript.output) :
      Closes host arguments (.ok exit transcript)
  | silent {breakage : Breakage} {transcript : Transcript} (nothing : transcript.output = []) :
      Closes host arguments (.error breakage transcript)
  | cutShort {breakage : Breakage} {transcript : Transcript}
      (cut : CutShort host arguments breakage transcript.output) : Closes host arguments (.error breakage transcript)

theorem closes_of_rejects {breakage : Breakage} (rejects : Rejects host arguments breakage) (noted : List String) :
    Closes host arguments ((Session.refuse breakage).run ⟨[], noted⟩) := by
  rw [Session.run_refuse]
  cases breakage.message? with
  | none => exact .silent rfl
  | some words => exact .returned ⟨Nat.le_refl 2, fun _ => rfl, nofun, nofun, fun _ => ⟨breakage, rejects⟩⟩

/-- A valid expansion is written unit by unit, as far as the stream takes them. -/
theorem closes_of_valid {settings : Settings} {expansion : Expansion} {report : Report}
    (expands : Expands host arguments settings expansion) (valid : expansion.isValid = true)
    (lines : report.texts = expansion.units.map (· ++ ['\n'])) (exits : report.exit = 0) (noted : List String) :
    Closes host arguments ((Session.put host report).run ⟨[], noted⟩) := by
  rw [Session.run_put, lines, exits]
  rcases poured : pour host.takes [] (expansion.units.map (· ++ ['\n'])) with ⟨output, _ | text⟩
  · have written : output = linesText expansion.units := by
      rw [linesText_eq_flatten, pour_eq_none poured, List.nil_append]
    refine .returned ⟨by decide, fun failed => absurd rfl failed,
      fun _ => ⟨settings, expansion, expands, valid, written⟩, ?_, ?_⟩
    · rintro ⟨⟩
    · rintro ⟨⟩
  · obtain ⟨taken, found, written, refused⟩ := pour_eq_some poured
    rw [List.getElem?_map, Option.map_eq_some_iff] at found
    obtain ⟨unit, among, rfl⟩ := found
    refine .cutShort ⟨settings, expansion, taken, unit, expands, valid, among, ?_, refused, rfl⟩
    rw [linesText_eq_flatten, written, List.map_take, List.nil_append]

theorem closes_of_invalid {settings : Settings} {expansion : Expansion} {report : Report}
    (expands : Expands host arguments settings expansion) (invalid : expansion.isValid = false)
    (nothing : report.texts = []) (exits : report.exit = 1) (noted : List String) :
    Closes host arguments ((Session.put host report).run ⟨[], noted⟩) := by
  rw [Session.run_put, nothing, exits]
  refine .returned ⟨by decide, fun _ => rfl, ?_, fun _ => ⟨settings, expansion, expands, invalid⟩, ?_⟩
  · rintro ⟨⟩
  · rintro ⟨⟩

theorem closes_of_expands {settings : Settings} {expansion : Expansion} {estimate : Option Estimate} {report : Report}
    (expands : Expands host arguments settings expansion) (plain : arguments.yaml = false)
    (presented : present host arguments expansion estimate = .ok report) (noted : List String) :
    Closes host arguments ((Session.put host report).run ⟨[], noted⟩) := by
  have exits := exit_of_present presented
  obtain ⟨catalog, loads, rfl⟩ := expands.eq_expand
  have lines : report.texts = (expand settings catalog arguments.prompt).units.map (· ++ ['\n']) := by
    simp only [present, plain, Bool.false_eq_true, ↓reduceIte, promptLines_expand] at presented
    cases presented
    rfl
  cases valid : (expand settings catalog arguments.prompt).isValid with
  | false =>
      rw [valid, if_neg Bool.false_ne_true] at exits
      rw [((expand_consistent settings catalog arguments.prompt).empty valid).1] at lines
      exact closes_of_invalid expands valid lines exits noted
  | true =>
      rw [valid, if_pos rfl] at exits
      exact closes_of_valid expands valid lines exits noted

theorem closes (expands : arguments.validate = false) (plain : arguments.yaml = false) :
    Closes host arguments ((Session.ofArguments host arguments).run {}) := by
  rcases ends host arguments with ⟨breakage, rejects⟩ | ⟨breakage, breaks⟩ | ⟨report, reports⟩
  · obtain ⟨noted, ended⟩ := Session.run_of_rejects rejects
    rw [ended]
    exact closes_of_rejects rejects noted
  · obtain ⟨noted, ended⟩ := Session.run_of_breaks breaks
    rw [ended]
    exact .silent rfl
  · obtain ⟨noted, ended⟩ := Session.run_of_reports reports
    rw [ended]
    cases reports with
    | check _ validates =>
        rw [expands] at validates
        cases validates
    | expansion expands _ presented => exact closes_of_expands expands plain presented noted

theorem RunAlike.symm {texts others : List Text} (alike : RunAlike host texts others) :
    RunAlike host others texts := by
  obtain ⟨arguments, other, understood, same, session, whole⟩ := alike
  exact ⟨other, arguments, same, understood, session.symm, whole.symm⟩

end PromptTemplate.CommandLine
