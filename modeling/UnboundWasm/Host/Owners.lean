import UnboundWasm.Lib.FoldExact
import UnboundWasm.Host.Aliases

/-!
# Whose records

`nameEqual` decides which records belong to a name.  Names are octets, and two of them
are equal in the DNS when they differ in the case of ASCII letters only.  The comparison
folds Unicode instead: it is the right one for a name whose runes are all steady, and
for no other.
-/

namespace UnboundWasm.Host

open UnboundWasm.Lib

variable {a b : Bytes}

/-- Equality of names in the DNS: the same length, and the same bytes once the letters A
to Z are folded. -/
def DnsEqual (a b : Bytes) : Prop :=
  a.length = b.length ∧ ∀ i : Nat, (a[i]?).map asciiLower = (b[i]?).map asciiLower

theorem dnsEqual_iff : DnsEqual a b ↔ a.map asciiLower = b.map asciiLower := by
  constructor
  · rintro ⟨_, bytes⟩
    apply List.ext_getElem?
    simpa using bytes
  · intro same
    refine ⟨by simpa using congrArg List.length same, ?_⟩
    intro i
    rw [← List.getElem?_map, ← List.getElem?_map, same]

/-- Every rune of the name has no relatives but the two cases of an ASCII letter. -/
def AllSteady (name : Bytes) : Prop := ∀ rune ∈ runes name, Steady rune

/-- A name is compared as in the DNS with every other one, and gets no records of
another owner, exactly when it is all steady. -/
theorem nameEqual_exact_iff (name : Bytes) :
    ((∀ other, nameEqual other name = true ↔ DnsEqual other name) ∧
        ∀ answers qtype, ∀ rr ∈ recordsAt answers name qtype, DnsEqual rr.name name) ↔
      AllSteady name := by
  have turned : ∀ other, nameEqual other name = true ↔ equalFold name other = true :=
    fun _ => ⟨equalFold_symm, equalFold_symm⟩
  rw [AllSteady, ← equalFold_exact_iff]
  constructor
  · rintro ⟨exactly, _⟩ other
    rw [← turned, exactly, dnsEqual_iff]
    exact ⟨Eq.symm, Eq.symm⟩
  · intro exactly
    have equal : ∀ other, nameEqual other name = true ↔ DnsEqual other name := by
      intro other
      rw [turned, exactly, dnsEqual_iff]
      exact ⟨Eq.symm, Eq.symm⟩
    refine ⟨equal, ?_⟩
    intro answers qtype rr member
    simp only [recordsAt, List.mem_filter, Bool.and_eq_true] at member
    exact (equal rr.name).mp member.2.2

/-- `k.`, and the same with the Kelvin sign in place of the letter. -/
def letterName : Bytes := [107, 46]
def kelvinName : Bytes := [0xE2, 0x84, 0xAA, 46]

/-- The address of one is reported for the other. -/
theorem kelvinName_taken_for_letter :
    normalizeName letterName = .ok letterName ∧ normalizeName kelvinName = .ok kelvinName ∧
      nameEqual kelvinName letterName = true ∧ ¬ DnsEqual kelvinName letterName ∧
      reported (parseAnswer (sectionParser [⟨kelvinName, 1, .a [192, 0, 2, 1], by decide⟩])
        bareResult letterName 1) = (true, [.from4 [192, 0, 2, 1]], [], [], none) := by
  refine ⟨by decide, by decide, by decide, ?_, by decide⟩
  rintro ⟨length, _⟩
  cases length

end UnboundWasm.Host
