import Mathlib.Data.List.TakeWhile
import RpcRegistry.CommandLine
import RpcRegistry.Proofs.Success

/-!
What the options of a command line say of its flags. Every step that reads a part of an argument
keeps the flags that are set and adds those the part names, so an accepted line has exactly the
flags that its arguments name, in whatever order and however they share a dash.
-/

namespace RpcRegistry.CommandLine

/-- The flags an argument names: a word after two dashes, or the letters after one, up to the option
that takes the rest of them as its value. -/
def Flag.named (text : String) : List Flag :=
  match text.toList with
  | '-' :: '-' :: word => (ofWord? word).toList
  | '-' :: letters => (letters.takeWhile (· ≠ 'c')).filterMap ofLetter?
  | _ => []

namespace Flag

variable {text : String}

theorem named_letters {c : Char} {rest : List Char} (isLetters : text.toList = '-' :: c :: rest)
    (single : c ≠ '-') :
    named text = ((c :: rest).takeWhile (· ≠ 'c')).filterMap ofLetter? := by
  unfold named
  rw [isLetters]
  split
  · rename_i word same
    exact absurd (List.cons.inj (List.cons.inj same).2).1 single
  · rename_i same
    rw [(List.cons.inj same).2]
  · rename_i other
    exact absurd rfl (other _)

theorem named_operand (noLetters : ∀ c rest, text.toList ≠ '-' :: c :: rest) :
    named text = [] := by
  unfold named
  split
  · rename_i word isWord
    exact absurd isWord (noLetters '-' word)
  · rename_i letters _ isLetters
    cases letters with
    | nil => rfl
    | cons c rest => exact absurd isLetters (noLetters c rest)
  · rfl

end Flag

def given (arguments : List String) : List Flag := arguments.flatMap Flag.named

/-- Whether the options have a flag; those that end the reading are in none. -/
def Options.has (options : Options) : Flag → Prop
  | .unsetOnly => options.unsetOnly
  | .statdOnly => options.statdOnly
  | .printConfig => options.printConfig
  | .dump => options.dump
  | .verbose => 0 < options.verbosity
  | .help | .version => False

/-- The later options have the flags of the earlier ones, these flags besides, and no others. -/
def Options.Gains (earlier : Options) (flags : List Flag) (later : Options) : Prop :=
  ∀ flag, later.has flag ↔ earlier.has flag ∨ flag ∈ flags

namespace Options.Gains

variable {first second third : Options} {flags more : List Flag}

theorem nothing (options : Options) : options.Gains [] options := by
  intro flag
  simp

theorem trans (here : first.Gains flags second) (there : second.Gains more third) :
    first.Gains (flags ++ more) third := by
  intro flag
  rw [there flag, here flag, List.mem_append, or_assoc]

end Options.Gains

namespace State

open Options

variable {options later : Options} {state next : State}

theorem gains_setConfig {value : String} (done : setConfig value options = .ok later) :
    options.Gains [] later := by
  unfold setConfig at done
  split at done
  · cases done
  · split at done
    · cases done
    · obtain rfl := Except.ok.inj done
      intro flag
      cases flag <;> simp [has]

theorem gains_settle (done : state.settle = .ok later) : state.options.Gains [] later := by
  unfold settle at done
  split at done
  · obtain rfl := Except.ok.inj done
    exact .nothing _
  · cases done
  · exact gains_setConfig done

theorem eq_of_once {seen : Bool} (done : once seen options = .ok later) : options = later := by
  unfold once at done
  split at done
  · cases done
  · exact Except.ok.inj done

theorem gains_applyFlag {flag : Flag} (done : state.applyFlag flag = .ok next) :
    state.options.Gains [flag] next.options := by
  obtain ⟨settled, isSettled, done⟩ := exists_of_bind_ok done
  have change : settled.Gains [flag] next.options := by
    intro other
    cases flag with
    | unsetOnly | statdOnly | printConfig | dump =>
        obtain ⟨changed, isChanged, same⟩ := exists_of_bind_ok done
        obtain rfl := Except.ok.inj same
        obtain rfl := eq_of_once isChanged
        cases other <;> simp [has]
    | verbose =>
        obtain rfl := Except.ok.inj done
        have positive : 0 < min (settled.verbosity + 1) maxVerbosity := by
          unfold maxVerbosity
          omega
        cases other <;> simp [has, positive]
    | help | version => cases done
  exact (gains_settle isSettled).trans change

theorem gains_attachConfig {value : List Char} (done : state.attachConfig value = .ok next) :
    state.options.Gains [] next.options := by
  obtain ⟨settled, isSettled, done⟩ := exists_of_bind_ok done
  obtain ⟨changed, isChanged, same⟩ := exists_of_bind_ok done
  obtain rfl := Except.ok.inj same
  exact (gains_settle isSettled).trans (gains_setConfig isChanged)

theorem gains_awaitConfig (done : state.awaitConfig = .ok next) :
    state.options.Gains [] next.options := by
  obtain ⟨settled, isSettled, same⟩ := exists_of_bind_ok done
  obtain rfl := Except.ok.inj same
  exact gains_settle isSettled

theorem gains_letters {text : List Char} (done : letters text state = .ok next) :
    state.options.Gains ((text.takeWhile (· ≠ 'c')).filterMap Flag.ofLetter?) next.options := by
  induction text generalizing state with
  | nil =>
      obtain rfl := Except.ok.inj done
      exact .nothing _
  | cons c rest induction =>
      unfold letters at done
      split at done
      · -- The rest of the letters are a value, and no flag counts from here on.
        rename_i takesValue
        have stop : ((c :: rest).takeWhile (· ≠ 'c')).filterMap Flag.ofLetter? = [] := by
          simp [takesValue]
        rw [stop]
        split at done
        · exact gains_awaitConfig done
        · exact gains_attachConfig done
        · exact gains_attachConfig done
      · rename_i plain
        split at done
        · rename_i flag isFlag
          obtain ⟨between, applied, done⟩ := exists_of_bind_ok done
          have more : ((c :: rest).takeWhile (· ≠ 'c')).filterMap Flag.ofLetter? =
              [flag] ++ (rest.takeWhile (· ≠ 'c')).filterMap Flag.ofLetter? := by
            simp [plain, isFlag]
          rw [more]
          exact (gains_applyFlag applied).trans (induction done)
        · cases done

theorem ofWord_of_equals {word : List Char} (equals : '=' ∈ word) : Flag.ofWord? word = none := by
  have other : ∀ text : String, '=' ∉ text.toList → word ≠ text.toList :=
    fun text absent same => absent (same ▸ equals)
  rw [Flag.ofWord?, if_neg (other _ (by decide)), if_neg (other _ (by decide)),
    if_neg (other _ (by decide)), if_neg (other _ (by decide)), if_neg (other _ (by decide))]

theorem gains_word {word : List Char}
    (done : state.word (word.takeWhile (· ≠ '='))
      (if word.contains '=' then some (word.dropWhile (· ≠ '=')).tail else none) = .ok next) :
    state.options.Gains (Flag.ofWord? word).toList next.options := by
  unfold State.word at done
  by_cases equals : '=' ∈ word
  · have contains : word.contains '=' = true := List.contains_iff_mem.2 equals
    rw [ofWord_of_equals equals]
    simp only [contains, if_true] at done
    split at done
    · exact gains_attachConfig done
    · split at done
      · rename_i missing
        cases missing
      · cases done
      · cases done
  · have contains : word.contains '=' = false := by simpa using equals
    -- Without an equals sign the word is all there is to the argument.
    have whole : word.takeWhile (· ≠ '=') = word := by
      apply List.takeWhile_eq_self_iff.2
      intro c member
      exact decide_eq_true fun same => equals (same ▸ member)
    simp only [contains, whole, Bool.false_eq_true, if_false] at done
    split at done
    · rename_i isConfig
      rw [isConfig]
      exact gains_awaitConfig done
    · split at done
      · rename_i flag isFlag _
        rw [isFlag]
        exact gains_applyFlag done
      · cases done
      · cases done

theorem gains_operand {text : String} (done : state.operand text = .ok next) :
    state.options.Gains [] next.options := by
  unfold operand at done
  split at done
  · obtain rfl := Except.ok.inj done
    exact .nothing _
  · cases done

/-- One argument adds the flags it names. -/
theorem gains_argument {text : String} (done : state.argument text = .ok next) :
    state.options.Gains (Flag.named text) next.options := by
  unfold argument at done
  split at done
  · rename_i word isWord
    rw [Flag.named, isWord]
    exact gains_word done
  · rename_i c rest single isLetters
    rw [Flag.named_letters isLetters single]
    exact gains_letters done
  · rename_i _ noLetters
    rw [Flag.named_operand noLetters]
    exact gains_operand done

/-- A run over arguments adds the flags that any of them names. -/
theorem gains_arguments {arguments : List String}
    (done : State.arguments arguments state = .ok later) :
    state.options.Gains (given arguments) later := by
  induction arguments generalizing state with
  | nil => exact gains_settle done
  | cons text rest induction =>
      rw [State.arguments] at done
      split at done
      · rename_i isDashes
        split at done
        · rename_i isLast
          rw [isDashes, isLast]
          exact gains_settle done
        · cases done
      · obtain ⟨between, read, done⟩ := exists_of_bind_ok done
        exact (gains_argument read).trans (induction done)

end State

/-- The options of an accepted line have the flags given on it. -/
theorem has_iff_given {arguments : List String} {options : Options}
    (parsed : parse arguments = .ok options) (flag : Flag) :
    options.has flag ↔ flag ∈ given arguments := by
  have none : ¬({} : Options).has flag := by
    cases flag <;> simp [Options.has]
  rw [State.gains_arguments parsed flag]
  exact or_iff_right none

end RpcRegistry.CommandLine
