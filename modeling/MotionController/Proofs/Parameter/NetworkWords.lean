import Mathlib.Data.Int.ModEq
import Mathlib.Data.List.Forall2
import MotionController.Proofs.Numeric.WholeNumbers
import MotionController.Proofs.Parameter.Replies
import MotionController.Proofs.Text.Cutting

/-!
# Words read for network parameters

A word shows its four octets, each in its one spelling (`isDotted_append`, `IsDotted.unique`), so
different words show differently (`dotted_injective`). A network parameter is read as the word that
the whole number on the channel leaves over modulo `2^32`, whether it counts the word with a sign or
without one (`ReadsWords`).
-/

namespace MotionController

open Numeric
open Text

namespace NetworkWord

variable {word other : NetworkWord} {n : Int}

/-! ## The view -/

/-- The text spells the octets, with points between them. -/
def IsDotted (text : String) (octets : List (BitVec 8)) : Prop :=
  List.Forall₂ (fun piece octet => Spells piece octet.toNat) (cut '.' text.toList) octets

/-! ## Octets -/

theorem octets_append (a b c d : BitVec 8) :
    octets (a ++ b ++ c ++ d) = [a, b, c, d].map BitVec.toNat := by
  have happend : ∀ {width : Nat} (front : BitVec width) (octet : BitVec 8),
      (front ++ octet).toNat = front.toNat * 256 + octet.toNat := by
    intro width front octet
    rw [BitVec.toNat_append, ← Nat.shiftLeft_add_eq_or_of_lt octet.isLt, Nat.shiftLeft_eq]
  have hword : (a ++ b ++ c ++ d).toNat =
      ((a.toNat * 256 + b.toNat) * 256 + c.toNat) * 256 + d.toNat := by
    rw [happend, happend, happend]
  have hb := b.isLt
  have hc := c.isLt
  have hd := d.isLt
  simp only [octets, hword, List.map_cons, List.map_nil, List.cons.injEq, and_true]
  omega

theorem octets_injective : Function.Injective octets := by
  intro word other h
  simp only [octets, List.cons.injEq, and_true] at h
  apply BitVec.eq_of_toNat_eq
  omega

/-! ## Dotted notation -/

theorem cut_dotted (word : NetworkWord) :
    cut '.' word.dotted.toList = word.octets.map decimal := by
  have hpoints : ∀ piece ∈ word.octets.map decimal, '.' ∉ piece := by
    intro piece hpiece hpoint
    rcases List.mem_map.1 hpiece with ⟨octet, -, rfl⟩
    exact absurd ((isDigits_decimal octet).isDigit '.' hpoint) (by decide)
  rw [dotted, String.toList_ofList]
  exact cut_join hpoints (by simp [octets])

theorem isDotted_append (a b c d : BitVec 8) :
    IsDotted (dotted (a ++ b ++ c ++ d)) [a, b, c, d] := by
  rw [IsDotted, cut_dotted, octets_append]
  simp [spells_decimal]

theorem IsDotted.cut_eq {text : String} {octets : List (BitVec 8)} (h : IsDotted text octets) :
    cut '.' text.toList = octets.map fun octet => decimal octet.toNat := by
  have hdecimal : List.Forall₂ (fun piece octet => piece = decimal octet.toNat)
      (cut '.' text.toList) octets := h.imp fun _ _ hspells => hspells.eq_decimal
  rwa [← List.forall₂_map_right_iff, List.forall₂_eq_eq_eq] at hdecimal

/-- Octets have one dotted notation. -/
theorem IsDotted.unique {text again : String} {octets : List (BitVec 8)}
    (h : IsDotted text octets) (hagain : IsDotted again octets) : text = again := by
  apply String.toList_inj.1
  rw [← join_cut '.' text.toList, ← join_cut '.' again.toList, h.cut_eq, hagain.cut_eq]

/-- Different words are shown differently. -/
theorem dotted_injective : Function.Injective dotted := by
  intro word other h
  -- The pieces between the points tell the octets, and these the word.
  have hpieces : word.octets.map decimal = other.octets.map decimal := by
    rw [← cut_dotted, ← cut_dotted, h]
  exact octets_injective (List.map_injective_iff.2 decimal_injective hpieces)

/-! ## Numbers of words -/

/-- The bits of a number depend on what it leaves over only. -/
theorem ofInt_eq_of_modEq (h : word.toInt ≡ n [ZMOD 2 ^ 32]) : BitVec.ofInt 32 n = word := by
  calc
    BitVec.ofInt 32 n = BitVec.ofInt 32 word.toInt := by
      -- Both numbers leave over the same modulo `2^32`.
      apply BitVec.eq_of_toNat_eq
      simp only [BitVec.toNat_ofInt]
      exact congrArg Int.toNat h.symm
    _ = word := BitVec.ofInt_toInt

theorem toInt_modEq_toNat (word : NetworkWord) : word.toInt ≡ word.toNat [ZMOD 2 ^ 32] := by
  rw [BitVec.toInt_eq_toNat_bmod]
  exact Int.bmod_emod

end NetworkWord

namespace Parameter

open NetworkWord

variable {σ : Type} [CommandChannel σ] {channel after : σ} {p : Parameter} {n : Int}
variable {word : NetworkWord} {value : Binary64}

/-! ## Reading -/

/-- The command that reads a network parameter. -/
def networkCommand (p : Parameter) : String :=
  "MG_" ++ p.name ++ "0"

/-- How a network parameter is read. -/
structure ReadsWords (p : Parameter) : Prop where
  /-- Over any channel, off a value that is a whole number. -/
  whole : ∀ {σ : Type} [CommandChannel σ] {channel after : σ} {value : Binary64} {n : Int}
    {word : NetworkWord}, value.toWhole? = some n → word.toInt ≡ n [ZMOD 2 ^ 32] →
      CommandChannel.commandValue p.networkCommand channel = (.ok value, after) →
        p.read.on channel = (.ok word.dotted, after)
  /-- Over a script, off the digits of a number that fits the format. -/
  digits : ∀ {script after : Channel} {n : Int} {word : NetworkWord}, n.natAbs < 2 ^ 53 →
    word.toInt ≡ n [ZMOD 2 ^ 32] →
      script.answer p.networkCommand = (.ok (String.ofList (decimalInt n)), after) →
        p.read.on script = (.ok word.dotted, after)
  /-- Whether or not the reply gives the word a sign. -/
  signless : ∀ {script after : Channel} {word : NetworkWord} {reply : String},
    reply = String.ofList (decimalInt word.toInt) ∨ reply = String.ofList (decimal word.toNat) →
      script.answer p.networkCommand = (.ok reply, after) →
        p.read.on script = (.ok word.dotted, after)

theorem on_read_network (hkind : p.kind = .network) (channel : σ) :
    p.read.on channel =
      ((CommandChannel.commandValue p.networkCommand channel).1.map fun packed =>
          NetworkWord.dotted (BitVec.ofInt 32 packed.roundToWord),
        (CommandChannel.commandValue p.networkCommand channel).2) := by
  have hread : (p.read : Session σ String) =
      (fun packed => NetworkWord.dotted (BitVec.ofInt 32 packed.roundToWord)) <$>
        Channel.sendForValue p.networkCommand := by
    simp only [read, readPlan, hkind]
    rfl
  rw [hread, Session.on_map]
  rfl

theorem on_read_network_of_whole (hkind : p.kind = .network) (hvalue : value.toWhole? = some n)
    (hword : word.toInt ≡ n [ZMOD 2 ^ 32])
    (hreply : CommandChannel.commandValue p.networkCommand channel = (.ok value, after)) :
    p.read.on channel = (.ok word.dotted, after) := by
  rw [on_read_network hkind, hreply, Except.map, Binary64.roundToWord_of_toWhole? hvalue,
    ofInt_eq_of_modEq hword]

theorem commandValue_of_digits {script after : Channel} {command : String}
    (hn : n.natAbs < 2 ^ 53)
    (hreply : script.answer command = (.ok (String.ofList (decimalInt n)), after)) :
    ∃ value, CommandChannel.commandValue command script = (.ok value, after) ∧
      value.toWhole? = some n := by
  rcases exists_read?_decimalInt hn with ⟨value, hread, hvalue⟩
  refine ⟨value, ?_, hvalue⟩
  have htrim := (isNumberText_decimalInt n).isToken.trim_eq
  have hnumber : Channel.numberIn command (String.ofList (decimalInt n)) = .ok value := by
    simp only [Channel.numberIn, String.toList_ofList, htrim, hread]
  change script.answerValue command = _
  simp only [Channel.answerValue, hreply]
  exact congrArg (·, after) hnumber

theorem on_read_network_of_digits (hkind : p.kind = .network) {script after : Channel}
    (hn : n.natAbs < 2 ^ 53) (hword : word.toInt ≡ n [ZMOD 2 ^ 32])
    (hreply : script.answer p.networkCommand = (.ok (String.ofList (decimalInt n)), after)) :
    p.read.on script = (.ok word.dotted, after) := by
  rcases commandValue_of_digits hn hreply with ⟨value, hcommand, hvalue⟩
  exact on_read_network_of_whole hkind hvalue hword hcommand

theorem readsWords (hkind : p.kind = .network) : ReadsWords p where
  whole := fun hvalue hword hreply => on_read_network_of_whole hkind hvalue hword hreply
  digits := fun hn hword hreply => on_read_network_of_digits hkind hn hword hreply
  signless := by
    -- Both numbers of a word fit the format, and they agree modulo `2^32`.
    rintro script after word reply (rfl | rfl) hreply
    · have hlow := word.le_toInt
      have hhigh := word.toInt_lt
      exact on_read_network_of_digits hkind (by omega) (Int.ModEq.refl _) hreply
    · have hlt := word.isLt
      exact on_read_network_of_digits hkind (by omega) word.toInt_modEq_toNat hreply

/-- Octets are shown in order, different words differently, and a network parameter is read as the
one word of 32 bits that agrees with the number on the channel modulo `2^32`. -/
theorem network_values_decode_uniquely :
    (∀ a b c d : BitVec 8, IsDotted (NetworkWord.dotted (a ++ b ++ c ++ d)) [a, b, c, d]) ∧
      Function.Injective NetworkWord.dotted ∧
      ∀ p : Parameter, p.kind = .network → ReadsWords p :=
  ⟨isDotted_append, dotted_injective, fun _ hkind => readsWords hkind⟩

/-- An address is read off its number with a sign, off its number without one, and off a number
that is no word of 32 bits. -/
theorem network_values_decode_uniquely_address :
    let p : Parameter := { kind := .network, name := "IA" }
    let script (reply : String) : Channel := ({} : Channel).reply "MG_IA0" reply
    p.kind = .network ∧
      ∀ reply ∈ ["-1062731775", "3232235521", "4298199531521"],
        (p.read.on (script reply)).1 = .ok "192.168.0.1" := by
  intro p script
  have hreads : ReadsWords p := network_values_decode_uniquely.2.2 p rfl
  have hanswer : ∀ reply, (script reply).answer p.networkCommand =
      (.ok reply, { script reply with sent := ["MG_IA0"] }) := fun _ => rfl
  have hshown : NetworkWord.dotted 0xC0A80001#32 = "192.168.0.1" := by decide +kernel
  have hsigned : (p.read.on (script "-1062731775")).1 = .ok "192.168.0.1" := by
    have hspelled : "-1062731775" = String.ofList (decimalInt (BitVec.toInt 0xC0A80001#32)) := by
      decide +kernel
    rw [hreads.signless (.inl hspelled) (hanswer _), hshown]
  have hunsigned : (p.read.on (script "3232235521")).1 = .ok "192.168.0.1" := by
    have hspelled : "3232235521" = String.ofList (decimal (BitVec.toNat 0xC0A80001#32)) := by
      decide +kernel
    rw [hreads.signless (.inr hspelled) (hanswer _), hshown]
  have hbeyond : (p.read.on (script "4298199531521")).1 = .ok "192.168.0.1" := by
    have hspelled : "4298199531521" = String.ofList (decimalInt 4298199531521) := by
      decide +kernel
    have hword : BitVec.toInt 0xC0A80001#32 ≡ 4298199531521 [ZMOD 2 ^ 32] := by decide
    rw [hspelled, hreads.digits (by decide) hword (hanswer _), hshown]
  simp only [List.forall_mem_cons]
  exact ⟨rfl, hsigned, hunsigned, hbeyond, fun _ hnil => absurd hnil List.not_mem_nil⟩

end Parameter
end MotionController
