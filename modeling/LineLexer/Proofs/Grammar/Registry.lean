import LineLexer.Grammar.Load
import LineLexer.Proofs.Diagnostics.Logged
import LineLexer.Proofs.Grammar.Compiled
import LineLexer.Proofs.SortedMap
import LineLexer.Proofs.Text.Lowercase
import Mathlib.Data.List.Induction

/-!
# What names stand for

The calls that have led to a registry (`Reached`) say what is found under a name (`Reached.find?_eq`).
If the last call about the name made it an alias, this is the grammar that was last registered under
the name it was made to stand for; otherwise it is the one that was last registered under the name
itself. So a listed name is not found if it was made an alias after it was registered
(`found_iff_of_mem_names`), and an alias of an alias does not lead to what that one leads to
(`addAlias_leads`).
-/

namespace LineLexer.Registry

open Diagnostics

theorem key_key (name : String) : key (key name) = key name := Text.lowercaseAscii_idem name

/-! ## Calls -/

/-- A change of a registry. -/
inductive Call where
  | register (grammar : Grammar)
  | addAlias (shorthand name : String)

namespace Call

/-- The name that a call is about, in the form in which names are compared. -/
def about : Call → String
  | register grammar => key grammar.name
  | addAlias shorthand _ => key shorthand

/-- The grammar that a call puts under a name. -/
def registered? (name : String) : Call → Option Grammar
  | register grammar => if key grammar.name = name then some grammar else none
  | addAlias _ _ => none

/-- The name that a call makes another one stand for. -/
def target? : Call → Option String
  | register _ => none
  | addAlias _ name => some (key name)

end Call

def call (registry : Registry) : Call → Registry
  | .register grammar => registry.register grammar
  | .addAlias shorthand name => registry.addAlias shorthand name

/-- The grammar that was last registered under a name, in any case of ASCII letters. -/
def lastRegistered? (calls : List Call) (name : String) : Option Grammar :=
  (calls.filterMap (Call.registered? (key name))).getLast?

/-- The last call about a name, in any case of ASCII letters. -/
def lastAbout? (calls : List Call) (name : String) : Option Call :=
  (calls.filter fun call => call.about = key name).getLast?

/-- The name is an alias: the last call about it made it one. -/
def IsAlias (calls : List Call) (name : String) : Prop :=
  ∃ shorthand target, lastAbout? calls name = some (.addAlias shorthand target)

/-- The registry that calls lead to. -/
def after (calls : List Call) : Registry := calls.foldl call empty

variable {calls : List Call} {registry : Registry} {name : String}

theorem after_concat (calls : List Call) (next : Call) :
    after (calls ++ [next]) = (after calls).call next := by
  rw [after, List.foldl_append]
  rfl

/-! ## One call -/

theorem find?_grammars_call (registry : Registry) (next : Call) (name : String) :
    (registry.call next).grammars.find? name
      = (next.registered? name).or (registry.grammars.find? name) := by
  cases next with
  | register grammar =>
    rw [call, register, SortedMap.find?_insert, Call.registered?]
    by_cases h : key grammar.name = name
    · rw [if_pos h.symm, if_pos h]
      rfl
    · rw [if_neg (Ne.symm h), if_neg h]
      rfl
  | addAlias shorthand target => rfl

theorem find?_aliases_call (registry : Registry) (next : Call) (name : String) :
    (registry.call next).aliases.find? name
      = if next.about = name then next.target? else registry.aliases.find? name := by
  cases next with
  | register grammar =>
    rw [call, register, SortedMap.find?_erase]
    simp only [eq_comm, Call.about, Call.target?]
  | addAlias shorthand target =>
    rw [call, addAlias, SortedMap.find?_insert]
    simp only [eq_comm, Call.about, Call.target?]

/-! ## All calls -/

/-- The grammars are those that were registered last. -/
theorem find?_grammars_after (calls : List Call) (name : String) :
    (after calls).grammars.find? name = (calls.filterMap (Call.registered? name)).getLast? := by
  induction calls using List.reverseRecOn with
  | nil => rfl
  | append_singleton calls next ih =>
    rw [after_concat, find?_grammars_call, ih, List.filterMap_append, List.getLast?_append]
    cases h : next.registered? name <;> simp [h]

/-- The aliases are those that were made by the last call about a name. -/
theorem find?_aliases_after (calls : List Call) (name : String) :
    (after calls).aliases.find? name
      = (calls.filter fun call => call.about = name).getLast?.bind Call.target? := by
  induction calls using List.reverseRecOn with
  | nil => rfl
  | append_singleton calls next ih =>
    rw [after_concat, find?_aliases_call, ih, List.filter_append, List.getLast?_append]
    by_cases h : next.about = name <;> simp [h]

/-- What is found under a name after calls. -/
theorem find?_after (calls : List Call) (name : String) :
    (after calls).find? name = match lastAbout? calls name with
      | some (.addAlias _ target) => lastRegistered? calls target
      | _ => lastRegistered? calls name := by
  rw [find?, find?_aliases_after, ← lastAbout?]
  cases lastAbout? calls name with
  | none => exact find?_grammars_after calls (key name)
  | some last =>
    cases last with
    | register grammar => exact find?_grammars_after calls (key name)
    | addAlias shorthand target => exact find?_grammars_after calls (key target)

/-! ## The registry of the languages -/

theorem answers_noteCompiled (result : Except GrammarError Grammar) :
    Answers (Grammar.noteCompiled result) result := by
  intro journal
  cases result <;> rfl

/-- A language's grammar is loaded, whether it was compiled before or not. -/
theorem answers_loadBuiltin {language : Language}
    (h : Language.named? language.name = some language) :
    Answers (Grammar.loadBuiltin language.name) language.grammar := by
  intro journal
  rw [Grammar.loadBuiltin, h]
  dsimp only
  rw [answer_bind]
  split
  · rfl
  · exact answers_noteCompiled language.grammar _

/-- A language is found under its name. -/
theorem named?_name : ∀ language ∈ Language.builtins, Language.named? language.name = some language := by
  intro language h
  rw [Language.builtins, List.mem_cons, List.mem_singleton] at h
  obtain rfl | rfl := h <;> rfl

/-- The calls that enter a language with its aliases. -/
def languageCalls (language : Language) : List Call :=
  match language.grammar with
  | .ok grammar => .register grammar :: language.aliases.map (.addAlias · language.name)
  | .error _ => []

theorem foldl_languageCalls {language : Language} {grammar : Grammar}
    (h : language.grammar = .ok grammar) (registry : Registry) :
    (languageCalls language).foldl call registry = registry.addLanguage language grammar := by
  rw [languageCalls, h, List.foldl_cons, List.foldl_map]
  rfl

/-- Languages are entered one after the other. -/
theorem eq_foldl_of_addLanguages {languages : List Language} {registry result : Registry}
    {journal : Journal}
    (hnamed : ∀ language ∈ languages, Language.named? language.name = some language)
    (h : ((addLanguages languages registry).run journal).1 = .ok result) :
    result = (languages.flatMap languageCalls).foldl call registry := by
  induction languages generalizing registry journal with
  | nil =>
    cases h
    rfl
  | cons language rest ih =>
    rw [List.forall_mem_cons] at hnamed
    rw [addLanguages, answer_bind, answers_loadBuiltin hnamed.1 journal] at h
    rw [List.flatMap_cons, List.foldl_append]
    cases hgrammar : language.grammar with
    | error fault =>
      rw [hgrammar] at h
      cases h
    | ok grammar =>
      rw [hgrammar] at h
      rw [foldl_languageCalls hgrammar]
      exact ih hnamed.2 h

/-! ## Registries that calls lead to -/

/-- A registry is empty or that of the languages at first, and then it is changed. The calls on the way
stand in order. -/
inductive Reached : List Call → Registry → Prop
  | empty : Reached [] empty
  | builtins {journal : Journal} {registry : Registry}
      (h : (withBuiltins.run journal).1 = .ok registry) :
      Reached (Language.builtins.flatMap languageCalls) registry
  | call {calls : List Call} {registry : Registry} (h : Reached calls registry) (next : Call) :
      Reached (calls ++ [next]) (registry.call next)

theorem Reached.eq_after (h : Reached calls registry) : registry = after calls := by
  induction h with
  | empty => rfl
  | builtins h => exact eq_foldl_of_addLanguages named?_name h
  | call h next ih => rw [ih, after_concat]

/-- What is found in a registry. -/
theorem Reached.find?_eq (h : Reached calls registry) (name : String) :
    registry.find? name = match lastAbout? calls name with
      | some (.addAlias _ target) => lastRegistered? calls target
      | _ => lastRegistered? calls name := by
  rw [h.eq_after, find?_after]

/-- In any case of letters the same is found. -/
theorem find?_congr {name' : String} (h : key name' = key name) :
    registry.find? name' = registry.find? name := by
  rw [find?, find?, h]

theorem require_eq_ok_iff {grammar : Grammar} :
    registry.require name = .ok grammar ↔ registry.find? name = some grammar := by
  rw [require]
  cases registry.find? name with
  | none => simp
  | some found => simp

/-- A name that is no alias leads to the grammar that was registered under it. -/
theorem Reached.find?_of_not_isAlias (h : Reached calls registry) (hnot : ¬IsAlias calls name) :
    registry.find? name = lastRegistered? calls name := by
  rw [h.find?_eq]
  split
  · rename_i shorthand target hlast
    exact absurd ⟨shorthand, target, hlast⟩ hnot
  · rfl

/-- A listed name is one under which a grammar was registered. -/
theorem Reached.exists_lastRegistered? (h : Reached calls registry) (hname : name ∈ registry.names) :
    key name = name ∧ ∃ grammar, lastRegistered? calls name = some grammar := by
  rw [h.eq_after, names, SortedMap.mem_keys_iff] at hname
  obtain ⟨grammar, hfind⟩ := hname
  rw [find?_grammars_after] at hfind
  obtain ⟨last, -, hlast⟩ := List.mem_filterMap.mp (List.mem_of_getLast? hfind)
  have hkey : key name = name := by
    cases last with
    | addAlias shorthand target => cases hlast
    | register registered =>
      rw [Call.registered?] at hlast
      split at hlast
      · rename_i heq
        rw [← heq, key_key]
      · cases hlast
  exact ⟨hkey, grammar, by rw [lastRegistered?, hkey, hfind]⟩

/-- Under a listed name, in any case of letters, the grammar that was last registered under it is found
if, and only if, the name was not made an alias after that, or one of a name that leads to this
grammar. -/
theorem found_iff_of_mem_names (h : Reached calls registry) (hname : name ∈ registry.names) :
    ∃ grammar, lastRegistered? calls name = some grammar ∧
      ∀ spelling, key spelling = key name →
        ((registry.find? spelling = some grammar ∧ registry.require spelling = .ok grammar) ↔
          ∀ shorthand target, lastAbout? calls name = some (.addAlias shorthand target) →
            lastRegistered? calls target = some grammar) := by
  obtain ⟨-, grammar, hregistered⟩ := h.exists_lastRegistered? hname
  refine ⟨grammar, hregistered, fun spelling hspelling => ?_⟩
  rw [require_eq_ok_iff, and_self, find?_congr hspelling, h.find?_eq]
  constructor
  · intro hfind shorthand target hlast
    rwa [hlast] at hfind
  · intro htarget
    split
    · rename_i shorthand target hlast
      exact htarget shorthand target hlast
    · exact hregistered

/-- A grammar is registered, and something else gets an alias. -/
def aliasedCalls : List Call := [.register sampleGrammar, .addAlias "s" "SAMPLE"]

theorem reached_aliasedCalls : Reached aliasedCalls (after aliasedCalls) :=
  (Reached.empty.call (.register sampleGrammar)).call (.addAlias "s" "SAMPLE")

theorem found_sample :
    Reached aliasedCalls (after aliasedCalls) ∧ "sample" ∈ (after aliasedCalls).names ∧
      (after aliasedCalls).find? "Sample" = some sampleGrammar ∧
      (after aliasedCalls).require "Sample" = .ok sampleGrammar := by
  have hname : "sample" ∈ (after aliasedCalls).names := by decide +kernel
  obtain ⟨grammar, hregistered, hfound⟩ := found_iff_of_mem_names reached_aliasedCalls hname
  have hgrammar : lastRegistered? aliasedCalls "sample" = some sampleGrammar := by rfl
  have hlast : lastAbout? aliasedCalls "sample" = some (.register sampleGrammar) := by rfl
  cases hregistered.symm.trans hgrammar
  refine ⟨reached_aliasedCalls, hname, (hfound "Sample" (by decide +kernel)).mpr ?_⟩
  intro shorthand target htarget
  cases hlast.symm.trans htarget

/-- A registered name is listed although it was made an alias of a name that leads nowhere. -/
theorem not_forall_found_of_mem_names :
    ¬∀ (calls : List Call) (registry : Registry), Reached calls registry →
      ∀ name ∈ registry.names, ∃ grammar, lastRegistered? calls name = some grammar ∧
        registry.find? name = some grammar ∧ registry.require name = .ok grammar := by
  intro hall
  have hreached := (Reached.empty.call (.register sampleGrammar)).call (.addAlias "Sample" "text")
  obtain ⟨grammar, -, hfind, -⟩ := hall _ _ hreached "sample" (by decide +kernel)
  have hnone : (after [.register sampleGrammar, .addAlias "Sample" "text"]).find? "sample" = none := by
    rfl
  cases hnone.symm.trans hfind

/-! ## New aliases -/

theorem find?_addAlias_of_ne {shorthand other : String} (h : key other ≠ key shorthand) :
    (registry.addAlias shorthand name).find? other = registry.find? other := by
  rw [find?, find?, addAlias, SortedMap.find?_insert_of_ne _ h]

/-- An alias leads to the grammar that was registered under the name it stands for. -/
theorem Reached.find?_addAlias_self (h : Reached calls registry) {shorthand spelling : String}
    (hspelling : key spelling = key shorthand) :
    (registry.addAlias shorthand name).find? spelling = lastRegistered? calls name := by
  rw [find?, addAlias, hspelling, SortedMap.find?_insert_self, h.eq_after]
  exact find?_grammars_after calls (key name)

/-- A new alias leads, in any case of letters, to the grammar that was registered under the name it
stands for. This is what the name itself leads to, unless the name is an alias. Under all other names
the same is found as before. -/
theorem addAlias_leads (h : Reached calls registry) {shorthand : String} {grammar : Grammar}
    (hfind : registry.find? name = some grammar) :
    (∀ spelling, key spelling = key shorthand →
      (registry.addAlias shorthand name).find? spelling = lastRegistered? calls name) ∧
    (¬IsAlias calls name → lastRegistered? calls name = some grammar) ∧
    ∀ other, key other ≠ key shorthand →
      (registry.addAlias shorthand name).find? other = registry.find? other := by
  refine ⟨fun spelling hspelling => h.find?_addAlias_self hspelling, fun hnot => ?_,
    fun other hother => find?_addAlias_of_ne hother⟩
  rw [← h.find?_of_not_isAlias hnot, hfind]

/-- The name of a grammar gets a second alias. -/
theorem addAlias_leads_sample :
    Reached aliasedCalls (after aliasedCalls) ∧
      (after aliasedCalls).find? "Sample" = some sampleGrammar ∧ ¬IsAlias aliasedCalls "Sample" ∧
      ((after aliasedCalls).addAlias "T" "Sample").find? "t" = some sampleGrammar ∧
      ((after aliasedCalls).addAlias "T" "Sample").find? "s" = some sampleGrammar := by
  have hfind : (after aliasedCalls).find? "Sample" = some sampleGrammar := by rfl
  have hlast : lastAbout? aliasedCalls "Sample" = some (.register sampleGrammar) := by rfl
  have hnot : ¬IsAlias aliasedCalls "Sample" := by
    rintro ⟨shorthand, target, htarget⟩
    cases hlast.symm.trans htarget
  obtain ⟨hself, hregistered, hothers⟩ :=
    @addAlias_leads _ _ _ reached_aliasedCalls "T" _ hfind
  refine ⟨reached_aliasedCalls, hfind, hnot, ?_, ?_⟩
  · rw [hself "t" (by decide +kernel), hregistered hnot]
  · rw [hothers "s" (by decide +kernel)]
    rfl

/-- An alias of an alias leads nowhere. -/
theorem not_forall_addAlias_leads :
    ¬∀ (calls : List Call) (registry : Registry), Reached calls registry →
      ∀ (shorthand name : String) (grammar : Grammar), registry.find? name = some grammar →
        (registry.addAlias shorthand name).find? shorthand = some grammar := by
  intro hall
  have hfind := hall _ _ reached_aliasedCalls "t" "s" sampleGrammar rfl
  have hnone : ((after aliasedCalls).addAlias "t" "s").find? "t" = none := by rfl
  cases hnone.symm.trans hfind

end LineLexer.Registry
