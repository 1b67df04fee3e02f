import BytecodeViewer.Logging.Output
import BytecodeViewer.Proofs.Text.DecimalNumerals

/-!
# The level that is asked for

The level of the log may be given as a number or by its name, and any other text stands for the
usual level.  Setting up the log does so for each text that does not look like digits without being
a number that can be read; with such a text it fails.
-/

namespace BytecodeViewer

namespace Logging

/-- The level that a text asks for: the number that its digits denote, or the level with its name in
any case, or else the usual level. -/
def levelAsked (s : String) : Int :=
  let word := Text.trim s
  if word ≠ "" ∧ word.toList.all Text.isDecimal then Text.decimalNumber word.toList
  else
    match levelNames.find? fun entry => Text.upper entry.1 == Text.upper word with
    | some (_, level) => level
    | none => usualLevel

/-- A text that looks like digits, although it is not a number that can be read. -/
structure Misleading (s : String) : Prop where
  filled : Text.trim s ≠ ""
  like : ∀ c ∈ (Text.trim s).toList, Text.isDigitLike c = true
  unreadable : ¬Text.ReadableDigits s

variable {s : String}

/-! ## Levels of texts -/

theorem lookup_eq_find? {entries : List (String × Int)} (word : String)
    (upper : ∀ e ∈ entries, Text.upper e.1 = e.1) :
    entries.lookup (Text.upper word) =
      (entries.find? fun e => Text.upper e.1 == Text.upper word).map Prod.snd := by
  induction entries with
  | nil => rfl
  | cons e entries ih =>
      obtain ⟨he, hrest⟩ := List.forall_mem_cons.mp upper
      have hsame : (Text.upper word == e.1) = (e.1 == Text.upper word) := BEq.comm
      rw [List.lookup_cons, hsame, List.find?_cons, he, ih hrest]
      cases e.1 == Text.upper word <;> rfl

theorem upper_levelNames : ∀ e ∈ levelNames, Text.upper e.1 = e.1 := by
  decide +kernel

theorem getD_lookup_levelNames (word : String) :
    (levelNames.lookup (Text.upper word)).getD usualLevel =
      match levelNames.find? fun entry => Text.upper entry.1 == Text.upper word with
      | some (_, level) => level
      | none => usualLevel := by
  rw [lookup_eq_find? word upper_levelNames]
  cases levelNames.find? fun entry => Text.upper entry.1 == Text.upper word <;> rfl

/-- A text that does not look like digits is taken for a name. -/
theorem levelOfText_of_not_like
    (h : ¬(Text.trim s ≠ "" ∧ ∀ c ∈ (Text.trim s).toList, Text.isDigitLike c = true)) :
    levelOfText s = .ok (levelAsked s) := by
  have hdecimal : ¬(Text.trim s ≠ "" ∧ (Text.trim s).toList.all Text.isDecimal = true) := by
    rintro ⟨filled, decimal⟩
    rw [List.all_eq_true] at decimal
    exact h ⟨filled, fun c hc => Text.isDigitLike_of_isDecimal (decimal c hc)⟩
  rw [levelOfText, levelAsked, if_neg hdecimal, ← getD_lookup_levelNames]
  exact if_neg (by rwa [List.all_eq_true])

theorem levelOfText_of_blank (blank : Text.isAllBlank s = true) :
    levelOfText s = .ok usualLevel := by
  have htrim : Text.trim s = "" := Text.trim_eq_empty_iff.mpr blank
  have hname : (levelNames.lookup (Text.upper "")).getD usualLevel = usualLevel := by
    decide +kernel
  simp only [levelOfText, htrim, ne_eq, not_true_eq_false, false_and, if_false, hname]

theorem levelOfText_of_like (filled : Text.trim s ≠ "")
    (like : ∀ c ∈ (Text.trim s).toList, Text.isDigitLike c = true) :
    levelOfText s = Text.parseInteger 10 s := by
  rw [levelOfText]
  exact if_pos ⟨filled, List.all_eq_true.mpr like⟩

theorem levelOfText_eq (h : ¬Misleading s) : levelOfText s = .ok (levelAsked s) := by
  by_cases hlike : Text.trim s ≠ "" ∧ ∀ c ∈ (Text.trim s).toList, Text.isDigitLike c = true
  · obtain ⟨filled, like⟩ := hlike
    have readable : Text.ReadableDigits s := by
      by_contra unreadable
      exact h ⟨filled, like, unreadable⟩
    have hdecimal := List.all_eq_true.mpr readable.decimal
    rw [levelOfText_of_like filled like, levelAsked, if_pos ⟨filled, hdecimal⟩]
    exact (Text.parseInteger_eq_ok_iff filled like).mpr ⟨readable, rfl⟩
  · exact levelOfText_of_not_like hlike

theorem levelOfText_fails (h : Misleading s) : ∃ why, levelOfText s = .error why := by
  rw [levelOfText_of_like h.filled h.like]
  cases hparse : Text.parseInteger 10 s with
  | error why => exact ⟨why, rfl⟩
  | ok n => exact absurd ((Text.parseInteger_eq_ok_iff h.filled h.like).mp hparse).1 h.unreadable

end Logging

/-! ## Setting up the log -/

namespace LogRequest

/-- The options that count for a request. -/
def options (r : LogRequest) (h : Host) : LogOptions :=
  (LogOptions.ofEnvironment h).asked r

/-- Logging is set up anew, at a level that is not fixed by the debug flag, and without a file. -/
structure Fresh (r : LogRequest) (h : Host) : Prop where
  force : r.force = true
  debug : r.debug = false
  file : r.file = some "" ∨ (r.file = none ∧ h.environmentText? "DV_LOG_FILE" = none)

/-- The text for the level is given with the request or, if there is none, in the environment. -/
inductive Gives (r : LogRequest) (h : Host) (s : String) : Prop
  | argument (level : r.level = some s)
  | environment (absent : r.level = none) (level : h.environment.lookup "DV_LOG_LEVEL" = some s)

variable {r : LogRequest} {h : Host} {s : String}

theorem Fresh.options_file (fresh : r.Fresh h) : (r.options h).file = none := by
  rcases fresh.file with hempty | ⟨habsent, hunset⟩
  · simp [options, LogOptions.asked, hempty]
  · simp [options, LogOptions.asked, LogOptions.ofEnvironment, habsent, hunset]

/-- A text that is left out because it is blank would stand for the usual level too. -/
theorem Gives.level_eq (gives : r.Gives h s) :
    (r.options h).level.filter (· != "") = some s ∨
      (r.options h).level.filter (· != "") = none ∧ Text.isAllBlank s = true := by
  have hlevel : (r.options h).level = some s ∨
      (r.options h).level = none ∧ Text.isAllBlank s = true := by
    cases gives with
    | argument level => exact .inl (by simp [options, LogOptions.asked, level])
    | environment absent level =>
        cases hblank : Text.isAllBlank s <;>
          simp [options, LogOptions.asked, LogOptions.ofEnvironment, absent, level, hblank,
            Option.filter]
  rcases hlevel with hlevel | ⟨hlevel, hblank⟩
  · by_cases hempty : s = ""
    · subst hempty
      exact .inr ⟨by rw [hlevel]; rfl, rfl⟩
    · exact .inl (by simpa [hlevel] using hempty)
  · exact .inr ⟨by rw [hlevel]; rfl, hblank⟩

theorem Gives.levelNumber_eq (gives : r.Gives h s) :
    (r.options h).levelNumber false = (Logging.levelOfText s).mapError .badNumeral := by
  unfold LogOptions.levelNumber
  rcases gives.level_eq with hlevel | ⟨hlevel, hblank⟩
  · rw [hlevel]
    cases hread : Logging.levelOfText s <;> simp [hread, Except.mapError]
  · rw [hlevel, Logging.levelOfText_of_blank hblank]
    rfl

end LogRequest

namespace LogOutput

variable {r : LogRequest} {h : Host} {s : String}

/-- The handlers are set before the level is known, and stay if it cannot be read. -/
theorem configure_on_fresh (fresh : r.Fresh h) (out : LogOutput) :
    (configure r).on (out, h) =
      let handlers := [{ target := .standardError, asJson := (r.options h).asJson }]
      match (r.options h).levelNumber false with
      | .ok level => (.ok (), { level, handlers }, { h with log := { h.log with level } })
      | .error f => (.error f, { out with handlers }, h) := by
  have hhandlers : (r.options h).handlers.on h =
      (.ok [{ target := .standardError, asJson := (r.options h).asJson }], h) := by
    simp [LogOptions.handlers, fresh.options_file]
  rw [LogRequest.options] at hhandlers ⊢
  cases hnumber : ((LogOptions.ofEnvironment h).asked r).levelNumber false <;>
    simp [configure, fresh.force, fresh.debug, hhandlers, hnumber]

/-- Whenever a text is given for the level, logging can be set up anew and has the level then that
the text asks for. -/
def SetsLevel (s : String) : Prop :=
  ∀ (r : LogRequest) (h : Host) (out : LogOutput), r.Fresh h → r.Gives h s →
    ∃ out' h', (configure r).on (out, h) = (.ok (), out', h') ∧
      out'.level = Logging.levelAsked s ∧ h'.log.level = Logging.levelAsked s

theorem setsLevel_of_not_misleading (honest : ¬Logging.Misleading s) : SetsLevel s := by
  intro r h out fresh gives
  have hnumber : (r.options h).levelNumber false = .ok (Logging.levelAsked s) := by
    rw [gives.levelNumber_eq, Logging.levelOfText_eq honest]
    rfl
  have hon := configure_on_fresh fresh out
  rw [hnumber] at hon
  exact ⟨_, _, hon, rfl, rfl⟩

theorem configure_fails (misleading : Logging.Misleading s) (fresh : r.Fresh h)
    (gives : r.Gives h s) (out : LogOutput) :
    ∃ why k, (configure r).on (out, h) = (.error (.badNumeral why), k) := by
  obtain ⟨why, hfails⟩ := Logging.levelOfText_fails misleading
  have hnumber : (r.options h).levelNumber false = .error (.badNumeral why) := by
    rw [gives.levelNumber_eq, hfails]
    rfl
  have hon := configure_on_fresh fresh out
  rw [hnumber] at hon
  exact ⟨why, _, hon⟩

theorem not_setsLevel_of_misleading (misleading : Logging.Misleading s) : ¬SetsLevel s := by
  intro sets
  let r : LogRequest := { level := some s, force := true }
  have fresh : r.Fresh {} := ⟨rfl, rfl, .inr ⟨rfl, rfl⟩⟩
  have gives : r.Gives {} s := .argument rfl
  obtain ⟨_, _, hon, -, -⟩ := sets r {} {} fresh gives
  obtain ⟨why, k, hfails⟩ := configure_fails misleading fresh gives {}
  rw [hfails] at hon
  cases hon

/-- Logging can be set up with each text for the level but the misleading ones. -/
theorem setsLevel_iff (s : String) : SetsLevel s ↔ ¬Logging.Misleading s :=
  ⟨fun sets misleading => not_setsLevel_of_misleading misleading sets, setsLevel_of_not_misleading⟩

/-- A superscript looks like a digit, but is not one of a number. -/
theorem superscript_not_setsLevel : ¬SetsLevel "²" := by
  have htrim : (Text.trim "²").toList = ['²'] := by decide +kernel
  apply not_setsLevel_of_misleading
  refine ⟨by decide +kernel, ?_, ?_⟩
  · rw [htrim, List.forall_mem_singleton]
    decide +kernel
  · intro readable
    have hdecimal := readable.decimal '²' (by rw [htrim]; exact List.mem_singleton_self _)
    revert hdecimal
    decide +kernel

end LogOutput

end BytecodeViewer
