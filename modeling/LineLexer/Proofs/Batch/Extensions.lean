import LineLexer.Batch.Config
import LineLexer.Proofs.Text.Lowercase
import Mathlib.Data.List.TakeWhile

/-!
# Files by their extensions

An extension that a config was given takes in the files whose extension comes to the same when its
ASCII capitals are made small (`takesIn_iff`), and these differ from it in case only. What was given has
been made small in full. So an extension takes in the files that have just this extension if, and only
if, it has no capital outside ASCII (`accepts_withExtension`).
-/

namespace LineLexer.Batch.Config

open Files

/-- An extension that was given takes in the files with another one: it was made small, and what it was
made into is the other one but for the case of ASCII letters. -/
def TakesIn (extension other : String) : Prop :=
  sameExtension other (Text.lowercase extension) = true

/-- The files with an extension are taken in through one that the config has. -/
def Lists (config : Config) (other : String) : Prop :=
  ∃ listed ∈ config.extensions, sameExtension other listed = true

variable {extension : String}

/-- Dots in front of an extension do not count. -/
theorem withExtension_dots (config : Config) (dots : Nat) (h : '.' ∉ extension.toList) :
    config.withExtension (String.ofList (List.replicate dots '.' ++ extension.toList))
      = { config with extensions := config.extensions ++ [Text.lowercase extension] } := by
  have hdots : (List.replicate dots '.').dropWhile (· = '.') = [] := by
    rw [List.dropWhile_eq_nil_iff]
    exact fun c hc => decide_eq_true (List.eq_of_mem_replicate hc)
  have hbare : extension.toList.dropWhile (· = '.') = extension.toList := by
    rw [List.dropWhile_eq_self_iff]
    intro hlength hdot
    exact h (of_decide_eq_true hdot ▸ List.getElem_mem hlength)
  rw [withExtension, String.toList_ofList, List.dropWhile_append, hdots, List.isEmpty_nil, if_pos rfl,
    hbare, String.ofList_toList]

theorem takesIn_iff {other : String} :
    TakesIn extension other ↔ Text.lowercaseAscii other = Text.lowercase extension := by
  rw [TakesIn, sameExtension, decide_eq_true_iff, Text.lowercaseAscii_lowercase]

/-- A file is taken through the extension that was given last, or through one from before. -/
theorem accepts_withExtension_iff (config : Config) (dots : Nat) (h : '.' ∉ extension.toList)
    {path : Path} {other : String} (hother : path.extension? = some other) :
    (config.withExtension (String.ofList (List.replicate dots '.' ++ extension.toList))).accepts path
        = true ↔ config.Lists other ∨ TakesIn extension other := by
  have hnonempty : (config.extensions ++ [Text.lowercase extension]).isEmpty = false := by simp
  rw [withExtension_dots config dots h, accepts, hother, hnonempty, Bool.false_or, Option.any_some,
    List.any_append, Bool.or_eq_true, List.any_eq_true, List.any_cons, List.any_nil, Bool.or_false,
    Lists, TakesIn]

/-- An extension takes in no file whose extension differs from it in more than case, and it takes in
the files with just this extension if, and only if, it has no capital outside ASCII. -/
theorem accepts_withExtension (config : Config) (dots : Nat) (h : '.' ∉ extension.toList) :
    (∀ (path : Path) (other : String), path.extension? = some other →
      ((config.withExtension (String.ofList (List.replicate dots '.' ++ extension.toList))).accepts
          path = true ↔ config.Lists other ∨ TakesIn extension other)) ∧
    (∀ other, TakesIn extension other → Text.lowercase other = Text.lowercase extension) ∧
    (TakesIn extension extension ↔
      ∀ c ∈ extension.toList, c.toNat < 128 ∨ Text.lowerChar c = [c]) := by
  refine ⟨fun path other hother => ?_, fun other htaken => ?_, ?_⟩
  · exact accepts_withExtension_iff config dots h hother
  · exact Text.lowercase_of_sameAscii (takesIn_iff.mp htaken)
  · exact takesIn_iff.trans Text.lowercaseAscii_eq_lowercase_iff

/-- A config that takes every file. -/
def openConfig : Config := ⟨1, true, [], none, false, false⟩

/-- An extension in capitals takes in a file with this extension, and no file but those with `jcl`. -/
theorem accepts_jcl :
    '.' ∉ "JCL".toList ∧ (⟨"./a.JCL"⟩ : Path).extension? = some "JCL" ∧
      (openConfig.withExtension "..JCL").accepts ⟨"./a.JCL"⟩ = true ∧
      ∀ (path : Path) (other : String), path.extension? = some other →
        (openConfig.withExtension "..JCL").accepts path = true →
        Text.lowercase other = Text.lowercase "JCL" := by
  have hdot : '.' ∉ "JCL".toList := by decide
  have hpath : (⟨"./a.JCL"⟩ : Path).extension? = some "JCL" := by rfl
  obtain ⟨haccepts, hothers, hself⟩ := accepts_withExtension openConfig 2 hdot
  have hnone (other : String) : ¬openConfig.Lists other := by
    rintro ⟨listed, hlisted, -⟩
    exact List.not_mem_nil hlisted
  have hascii : "JCL".toList.all (·.toNat < 128) = true := by decide
  refine ⟨hdot, hpath, ?_, fun path other hother htaken => ?_⟩
  · refine (haccepts _ _ hpath).mpr (.inr (hself.mpr fun c hc => .inl ?_))
    exact of_decide_eq_true (List.all_eq_true.mp hascii c hc)
  · exact hothers other (((haccepts path other hother).mp htaken).resolve_left (hnone other))

/-- The letter in the extension is a capital outside ASCII. -/
theorem not_forall_accepts_given :
    ¬∀ (config : Config) (dots : Nat) (extension : String),
      '.' ∉ extension.toList → '/' ∉ extension.toList →
      ∀ path : Path, path.extension? = some extension →
        (config.withExtension (String.ofList (List.replicate dots '.' ++ extension.toList))).accepts
          path = true := by
  intro hall
  have haccepts := hall openConfig 0 "É" (by decide) (by decide) ⟨"./a.É"⟩ (by decide +kernel)
  exact absurd haccepts (by decide +kernel)

end LineLexer.Batch.Config
