import Libhat.Linux.MemoryProtector
import Libhat.Mac.Module

/-!
# The names of sections on macOS

`for_each_section` gives every section the name `"SEGMENT,SECTION"`, and
`get_section_data` takes such a name.  It does not split the name at the comma: it
asks of every section whether its two names have the right lengths together, and
stand at the two ends of the name.

* `isNamed_qualifiedName`: without commas in the names themselves, that is to have
  the same two names.
* `getSectionData_enumerated`: so what is enumerated is what is looked up.
-/

namespace Libhat.Mac

open Visit
open Libhat.Linux (Protection)

/-- `to_hat_prot`. -/
def toHatProt (prot : VmProt) : Protection :=
  (if prot &&& vmProtRead ≠ 0 then Protection.read else 0) |||
    (if prot &&& vmProtWrite ≠ 0 then Protection.write else 0) |||
    (if prot &&& vmProtExecute ≠ 0 then Protection.execute else 0)

namespace ModuleImplementation

/-- `','`. -/
def comma : Byte := 0x2C#8

/-- The string `qualified` of `for_each_section`. -/
def qualifiedName (seg : SegmentCommand) (sec : MachSection) : List Byte :=
  seg.segname.view ++ comma :: sec.sectname.view

/-- `module::for_each_section`. -/
def forEachNamedSection {σ : Type} (mimpl : ModuleImplementation)
    (callback : List Byte → ByteSpan → Protection → σ → σ × Bool) (s : σ) : σ :=
  mimpl.forEachSection (fun seg sec =>
    callback (qualifiedName seg sec) (mimpl.sectionData sec) (toHatProt seg.initprot)) s

/-- What a callback of `module::for_each_section` gets. -/
structure NamedSection where
  name : List Byte
  data : ByteSpan
  prot : Protection
  deriving DecidableEq

/-- All calls of a callback that never stops. -/
def enumerated (mimpl : ModuleImplementation) : List NamedSection :=
  mimpl.forEachNamedSection (fun name data prot seen => (seen ++ [⟨name, data, prot⟩], true)) []

/-- The two names of a section. -/
def names (p : SegmentCommand × MachSection) : List Byte × List Byte :=
  (p.1.segname.view, p.2.sectname.view)

/-- No name has a comma in it. -/
def CommaFree (p : SegmentCommand × MachSection) : Prop :=
  comma ∉ p.1.segname.view ∧ comma ∉ p.2.sectname.view

instance : DecidablePred CommaFree := fun p =>
  inferInstanceAs (Decidable (comma ∉ p.1.segname.view ∧ comma ∉ p.2.sectname.view))

variable {mimpl : ModuleImplementation}

/-- **What is enumerated** are the sections, in the order of the load commands. -/
theorem enumerated_eq (mimpl : ModuleImplementation) :
    mimpl.enumerated = mimpl.sections.map fun p =>
      ⟨qualifiedName p.1 p.2, mimpl.sectionData p.2, toHatProt p.1.initprot⟩ := by
  rw [enumerated, forEachNamedSection, forEachSection_eq]
  exact congrArg Prod.fst (visit_append_all (fun p : SegmentCommand × MachSection =>
    (⟨qualifiedName p.1 p.2, mimpl.sectionData p.2, toHatProt p.1.initprot⟩ : NamedSection))
    mimpl.sections [])

/-- A name that begins with the one, has a comma behind it, and ends with the other,
which has all characters that are left, is the two of them. -/
theorem eq_qualified {name first second : List Byte}
    (hlen : name.length = first.length + second.length + 1) (hfirst : first <+: name)
    (hcomma : name[first.length]? = some comma) (hsecond : second <:+ name) :
    name = first ++ comma :: second := by
  obtain ⟨rest, rfl⟩ := hfirst
  rw [List.length_append] at hlen
  rw [List.getElem?_append_right le_rfl, Nat.sub_self] at hcomma
  cases rest with
  | nil => cases hcomma
  | cons c rest =>
    obtain rfl : c = comma := Option.some.inj hcomma
    have hrest : rest <:+ first ++ comma :: rest := ⟨first ++ [comma], by simp⟩
    rw [List.length_cons] at hlen
    have hsuffix := List.suffix_of_suffix_length_le hsecond hrest (by omega)
    rw [hsuffix.eq_of_length (by omega)]

/-- **The test of `get_section_data`** holds of a name with one comma exactly for the
sections that have its two parts as their names. -/
theorem isNamed_qualifiedName {p q : SegmentCommand × MachSection} (hp : CommaFree p)
    (hq : CommaFree q) :
    isNamed (qualifiedName p.1 p.2) q.1 q.2 = true ↔ names q = names p := by
  constructor
  · intro h
    rw [isNamed, Bool.or_eq_true, beq_iff_eq] at h
    rcases h with h | h
    · simp only [Bool.and_eq_true, beq_iff_eq, List.isPrefixOf_iff_prefix,
        List.isSuffixOf_iff_suffix] at h
      obtain ⟨⟨⟨hlen, hprefix⟩, hat⟩, hsuffix⟩ := h
      have hname := eq_qualified hlen hprefix hat hsuffix
      obtain ⟨hseg, _, hsec⟩ := (List.append_cons_inj_of_notMem hp.1 hp.2).mp hname
      rw [names, names, hseg, hsec]
    · -- the section's own name has no comma, so it is not the whole name
      refine absurd ?_ hq.2
      rw [h, qualifiedName]
      exact List.mem_append_right _ List.mem_cons_self
  · intro h
    have hseg : q.1.segname.view = p.1.segname.view := congrArg Prod.fst h
    have hsec : q.2.sectname.view = p.2.sectname.view := congrArg Prod.snd h
    rw [isNamed, hseg, hsec, qualifiedName, Bool.or_eq_true]
    left
    simp only [Bool.and_eq_true, beq_iff_eq, List.isPrefixOf_iff_prefix,
      List.isSuffixOf_iff_suffix]
    refine ⟨⟨⟨?_, List.prefix_append _ _⟩, ?_⟩, ?_⟩
    · rw [List.length_append, List.length_cons, Nat.add_assoc]
    · rw [List.getElem?_append_right le_rfl, Nat.sub_self]
      rfl
    · exact ⟨p.1.segname.view ++ [comma], by simp⟩

/-- **Every section is found under the name that it is enumerated with**, if no two
have the same names and no name has a comma in it. -/
theorem getSectionData_enumerated (hdistinct : (mimpl.sections.map names).Nodup)
    (hcomma : ∀ p ∈ mimpl.sections, CommaFree p) :
    ∀ e ∈ mimpl.enumerated, mimpl.getSectionData e.name = e.data := by
  intro e he
  rw [enumerated_eq, List.mem_map] at he
  obtain ⟨p, hp, rfl⟩ := he
  have hfind : (mimpl.sections.find? fun q => isNamed (qualifiedName p.1 p.2) q.1 q.2)
      = some p := by
    apply find?_of_unique hp
    · exact (isNamed_qualifiedName (hcomma p hp) (hcomma p hp)).mpr rfl
    · intro q hq hhit
      have hnames := (isNamed_qualifiedName (hcomma p hp) (hcomma q hq)).mp hhit
      exact List.inj_on_of_nodup_map hdistinct hq hp hnames
  rw [getSectionData_eq, hfind]
  rfl

/-- Two sections with one name, and one without a name. -/
def constImage : ModuleImplementation where
  commands := [
    .segment ⟨sampleName "__TEXT", 0x4000, vmProtRead,
      [⟨sampleName "__const", 0x1000, 0x20, 0⟩, ⟨sampleName "", 0x1100, 0x10, 0⟩]⟩,
    .segment ⟨sampleName "__DATA", 0x4000, vmProtRead ||| vmProtWrite,
      [⟨sampleName "__const", 0x5000, 0x40, 0⟩]⟩]
  slide := 0x100000

theorem getSectionData_enumerated_const :
    (⟨literal "__DATA,__const", ⟨0x105000, 0x40⟩, 0b011⟩ : NamedSection)
        ∈ constImage.enumerated ∧
      ∀ e ∈ constImage.enumerated, constImage.getSectionData e.name = e.data :=
  ⟨by decide, getSectionData_enumerated (by decide) (by decide)⟩

end ModuleImplementation

end Libhat.Mac
