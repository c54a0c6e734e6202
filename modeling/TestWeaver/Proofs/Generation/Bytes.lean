import TestWeaver.Generation.Result
import TestWeaver.Proofs.Text.Bytes

/-! Documents with bytes. The texts of the three documents have bytes as soon as the parts that they are made of have. -/
namespace TestWeaver
open Utf8

namespace Page

structure Source.Encodable (s : Source) : Prop where
  className : Whole s.className
  story : Whole s.story
  path : Whole s.path
  constants : ∀ c ∈ s.constants, Whole c.1 ∧ Whole c.2
  methods : ∀ m ∈ s.methods, Whole m.name ∧ Whole m.readable ∧ Whole m.constant ∧ ∀ t ∈ m.default, Whole t

theorem methodWhole {m : MethodSource} (name : Whole m.name) (readable : Whole m.readable) (constant : Whole m.constant)
    (value : ∀ t ∈ m.default, Whole t) : ∀ line ∈ m.lines, Whole line := by
  have parameters : ∀ p, primitive? m.kind = some p → Whole (m.parameters p) := by
    intro p given
    unfold MethodSource.parameters
    cases kind : m.kind <;> rw [kind] at given <;> cases given <;> cases default : m.default <;> simp [value,default]
  unfold MethodSource.lines
  cases kind : m.kind <;> simp [primitive?,name,readable,constant,parameters,kind]

theorem textWhole {s : Source} (parts : s.Encodable) : Whole s.text := by
  refine wholeAppend.mpr ⟨wholeJoin (wholeString "\n") ?_,wholeString "\n"⟩
  have pageClass : Whole (Naming.pageClass s.className) := by
    unfold Naming.pageClass
    split <;> simp [parts.className]
  have head : ∀ line ∈ s.head, Whole line := by simp [Source.head,parts.className,parts.story,parts.path,pageClass]
  have constants : ∀ line ∈ constantLines s.constants, Whole line := by
    intro line member
    unfold constantLines at member
    split at member
    · cases member
    · rcases List.mem_append.mp member with inside | last
      · obtain ⟨c,given,rfl⟩ := List.mem_map.mp inside
        simp [constantLine,parts.constants c given]
      · rw [List.mem_singleton.mp last]
        exact wholeNil
  have helpers : ∀ line ∈ helperLines, Whole line := by simp [helperLines]
  have methods : ∀ line ∈ s.methods.flatMap fun m => [] :: m.lines, Whole line := by
    intro line member
    obtain ⟨m,given,inside⟩ := List.mem_flatMap.mp member
    rcases List.mem_cons.mp inside with rfl | later
    · exact wholeNil
    · obtain ⟨name,readable,constant,value⟩ := parts.methods m given
      exact methodWhole name readable constant value line later
  simp only [List.mem_append]
  rintro line (((inside | inside) | inside) | inside)
  · exact head line inside
  · exact constants line inside
  · exact helpers line inside
  · exact methods line inside

end Page

namespace Feature

structure Document.Encodable (d : Document) : Prop where
  head : ∀ line ∈ d.head, Whole line
  opening : ∀ s ∈ d.precondition, Whole s.line
  closing : ∀ s ∈ d.closing, Whole s.line
  blocks : ∀ b ∈ d.blocks, Whole b.name ∧ (∀ s ∈ b.steps, Whole s.line) ∧ ∀ line ∈ b.examples.lines, Whole line

theorem blockWhole {b : Block} {opening closing : Option Step} (opens : ∀ s ∈ opening, Whole s.line)
    (closes : ∀ s ∈ closing, Whole s.line) (name : Whole b.name) (steps : ∀ s ∈ b.steps, Whole s.line)
    (examples : ∀ line ∈ b.examples.lines, Whole line) : ∀ line ∈ b.lines opening closing, Whole line := by
  have header : Whole b.header := by
    unfold Block.header
    split <;> simp [name]
  have lines : ∀ s ∈ opening.toList ++ b.steps ++ closing.toList, Whole (indent s.line) := by
    simp only [List.mem_append,Option.mem_toList,indent,wholeAppend,wholeString,true_and]
    rintro s ((inside | inside) | inside)
    · exact opens s inside
    · exact steps s inside
    · exact closes s inside
  unfold Block.lines
  simp only [List.mem_append,List.mem_cons,List.mem_map,List.not_mem_nil,or_false]
  rintro line (((rfl | ⟨s,inside,rfl⟩) | inside) | rfl)
  · exact header
  · exact lines s (by simpa only [List.mem_append] using inside)
  · exact examples line inside
  · exact wholeNil

theorem textWhole {d : Document} (parts : d.Encodable) : Whole d.text := by
  have background : ∀ line ∈ d.backgroundLines, Whole line := by
    unfold Document.backgroundLines
    split
    · rename_i s _ given
      simp [indent,parts.opening s given]
    · simp
  refine wholeJoin (wholeString "\n") ?_
  simp only [List.mem_append,List.mem_flatMap]
  rintro line ((inside | inside) | ⟨b,given,inside⟩)
  · exact parts.head line inside
  · exact background line inside
  · obtain ⟨name,steps,examples⟩ := parts.blocks b given
    refine blockWhole ?_ parts.closing name steps examples line inside
    split
    · simp
    · exact parts.opening

end Feature

namespace Steps

structure Source.Encodable (s : Source) : Prop where
  className : Whole s.className
  pageClass : Whole s.pageClass
  pageModule : Whole s.pageModule
  featureFile : Whole s.featureFile
  featureLiteral : Whole s.featureLiteral
  fixture : Whole s.fixture
  handlers : ∀ h ∈ s.handlers, (∀ t ∈ h.types, Whole t) ∧ ∀ line ∈ h.lines s.fixture, Whole line

theorem importsWhole {s : Source} (types : ∀ h ∈ s.handlers, ∀ t ∈ h.types, Whole t) :
    ∀ name ∈ s.imports, Whole name := by
  unfold Source.imports
  simp only [List.mem_mergeSort,List.mem_append,List.mem_singleton]
  rintro name ((inside | inside) | rfl)
  · obtain ⟨h,given,typed⟩ := List.mem_flatMap.mp (List.mem_eraseDups.mp inside)
    exact types h given name typed
  · split at inside
    · rw [List.mem_singleton.mp inside]
      exact wholeString _
    · cases inside
  · exact wholeString _

theorem textWhole {s : Source} (parts : s.Encodable) : Whole s.text := by
  have names : Whole (Text.join ", " s.imports) :=
    wholeJoin (wholeString ", ") (importsWhole fun h given => (parts.handlers h given).1)
  have head : ∀ line ∈ s.head, Whole line := by
    simp [Source.head,parts.className,parts.pageClass,parts.pageModule,parts.featureFile,parts.featureLiteral,
      parts.fixture,names]
  refine wholeAppend.mpr ⟨wholeJoin (wholeString "\n") ?_,wholeString "\n"⟩
  simp only [List.mem_append,List.mem_flatMap,List.mem_cons,List.not_mem_nil,or_false]
  rintro line (inside | ⟨h,given,(rfl | rfl) | inside⟩)
  · exact head line inside
  · exact wholeNil
  · exact wholeNil
  · exact (parts.handlers h given).2 line inside

end Steps

namespace Generation

theorem contentsWhole {d : Documents} (page : d.page.source.Encodable) (specification : d.specification.Encodable)
    (steps : d.steps.source.Encodable) (a : Artifact) :
    ∃ text bytes, d.contents.lookup a = some text ∧ encode text = .ok bytes := by
  have texts : ∃ text, d.contents.lookup a = some text ∧ Whole text := by
    cases a with
    | page => exact ⟨_,rfl,Page.textWhole page⟩
    | specification => exact ⟨_,rfl,Feature.textWhole specification⟩
    | glue => exact ⟨_,rfl,Steps.textWhole steps⟩
  obtain ⟨text,given,whole⟩ := texts
  obtain ⟨bytes,encodes⟩ := encodeWhole whole 0
  exact ⟨text,bytes,given,encodes⟩

end Generation
end TestWeaver
