import TestWeaver.Proofs.Files.Relative
import TestWeaver.Proofs.Naming.Classes

/-! What the files of a test are called. Whatever text names the test, its class name is one word, and the names of its
files are made from small letters, digits and underscores, so no file leaves the directory it is given. -/
namespace TestWeaver

namespace Naming

structure Stem (name : Text) : Prop where
  full : name ≠ []
  signs : ∀ c ∈ name, c.isSmall ∨ c.isDigit ∨ c = .char '_'

theorem snakeStem {name : Text} (full : name ≠ []) (alnum : Alnum name) : Stem (snake name) := by
  refine ⟨snakeFull alnum full,fun c member => ?_⟩
  rw [snakeSpoken alnum] at member
  obtain ⟨d,inside,rfl⟩ := List.mem_map.mp member
  have sign : d.isSmall ∨ d.isDigit ∨ d = .char ' ' := by simpa [isSpokenSign,or_assoc] using spokenWithin alnum d inside
  unfold underscored
  split
  · exact .inr (.inr rfl)
  · rename_i dark
    exact sign.imp_right (.imp_right fun blank => absurd blank dark)

theorem pageStem {name : Text} (full : name ≠ []) (alnum : Alnum name) : Stem (snake (pageClass name)) := by
  unfold pageClass
  split
  · exact snakeStem full alnum
  · exact snakeStem (by simp [full]) (behindAlnum alnum (by decide))

end Naming

namespace Layout

structure Filed (l : Layout) : Prop where
  stem : Naming.Stem l.stem
  pageModule : Naming.Stem l.pageModule
  pageStem : l.pageModule = if l.className.endsWith "Page" then l.stem else l.stem ++ "_page"
  page : l.fileName .page = l.pageModule ++ ".py"
  specification : l.fileName .specification = l.stem ++ ".feature"
  glue : l.fileName .glue = "test_" ++ l.stem ++ "_steps.py"
  within : ∀ working a, Path.resolve working (l.path a) =
    Path.resolve working (Path.join l.outputDir (l.directory a)) ++ [l.fileName a]
  apart : ∀ a b, a ≠ b → l.path a ≠ l.path b ∧
    ∀ working, Path.resolve working (l.path a) ≠ Path.resolve working (l.path b)

theorem filed {l : Layout} (full : l.className ≠ []) (alnum : Naming.Alnum l.className) : Filed l := by
  have within : ∀ working a, Path.resolve working (l.path a) =
      Path.resolve working (Path.join l.outputDir (l.directory a)) ++ [l.fileName a] := fun working a => by
    rw [pathJoined]
    exact Path.resolveProper (l.fileNameProper a) working _
  have placed : ∀ a b, a ≠ b → ∀ working, Path.resolve working (l.path a) ≠ Path.resolve working (l.path b) := by
    intro a b other working same
    rw [within,within] at same
    exact l.fileNamesDiffer l other (List.singleton_inj.mp (List.append_inj_right' same rfl))
  refine ⟨Naming.snakeStem full alnum,Naming.pageStem full alnum,?_,rfl,rfl,rfl,within,fun a b other => ?_⟩
  · split
    · rename_i ends
      exact congrArg Naming.snake (if_pos ends)
    · rename_i other
      exact Naming.snakePage full alnum (Bool.eq_false_iff.mpr other)
  · exact ⟨fun same => placed a b other [] (by rw [same]),placed a b other⟩

theorem textFiled (t : Text) : (∃ c rest, Naming.className t = c :: rest ∧ c.isLetter) ∧
    (∀ c ∈ Naming.className t, c.isAlnum) ∧ ∀ l : Layout, Filed (l.named (Naming.className t)) := by
  have alnum := Naming.classNameAlnum t
  obtain ⟨c,rest,head,capital⟩ := Naming.classNameHead t
  have full : Naming.className t ≠ [] := by simp [head]
  exact ⟨⟨c,rest,head,by simp [CodePoint.isLetter,capital]⟩,alnum,fun _ => filed full alnum⟩

example : Naming.className "../etc/passwd\x00\\'Ω" = "EtcPasswd" := by decide

end Layout
end TestWeaver
