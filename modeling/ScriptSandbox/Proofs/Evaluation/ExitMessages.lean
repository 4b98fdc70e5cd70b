import ScriptSandbox.Evaluation.Outcome
import ScriptSandbox.Proofs.Text.Replacements

/-!
# Messages of exits

What a guest complained of before it exits with a code other than zero is told as text, even if it
is none: it may be cut off inside a character, or have bytes of no character in between.

## Main results

* `Evaluation.exit_message`: the message of an exit, whatever the guest wrote
-/

namespace ScriptSandbox.Evaluation

open Utf8 (encode decode? StartsCharacter Truncated GivenUp)

/-- What a guest wrote to its standard error decides alone what message its exit has. The message is
well-formed, and it is what the guest wrote if that is. Otherwise there are well-formed bytes before
some with which no character starts. Of these the longest truncated character is given up, or the
first byte if there is none, and one character stands for it. What is left is less than all, and the
message goes on as if it were all. So one character stands for one that is cut off at the end, and a
message that is written again has itself as its message. -/
theorem exit_message :
    ∃ message : List UInt8 → String,
      (∀ code contexts stdout stderr, code ≠ 0 →
        classify (.error ⟨.exit code, contexts⟩) stdout stderr =
          .error (.executionExit code (message stderr))) ∧
      (∀ stderr, decode? (encode (message stderr)) = some (message stderr)) ∧
      (∀ v, message (encode v) = v) ∧
      (∀ stderr, (∃ v, stderr = encode v) ∨
        ∃ v s, stderr = encode v ++ s ∧ s ≠ [] ∧ ¬StartsCharacter s) ∧
      (∀ v s, s ≠ [] → ¬StartsCharacter s →
        (∃! b, GivenUp s b) ∧
          ∀ b r, s = b ++ r → GivenUp s b →
            r.length < (encode v ++ s).length ∧
              message (encode v ++ s) = v ++ "\uFFFD" ++ message r) ∧
      (∀ v b, b ≠ [] → Truncated b → message (encode v ++ b) = v ++ "\uFFFD") ∧
      ∀ stderr, message (encode (message stderr)) = message stderr := by
  refine ⟨Utf8.lossy, fun code contexts stdout stderr hcode => if_neg hcode,
    fun stderr => Utf8.decode?_eq_some_iff.mpr rfl, Utf8.lossy_encode, fun stderr => ?_,
    fun v s hs hstart => ⟨Utf8.existsUnique_givenUp hs, ?_⟩,
    fun v b hne hb => Utf8.lossy_truncated hb hne, fun stderr => Utf8.lossy_encode _⟩
  · obtain ⟨v, s, rfl, hstart⟩ := Utf8.exists_encode_append stderr
    by_cases hs : s = []
    · exact .inl ⟨v, by rw [hs, List.append_nil]⟩
    · exact .inr ⟨v, s, rfl, hs, hstart⟩
  · rintro b r rfl hgivenUp
    have hpos : 0 < b.length := List.length_pos_iff.mpr hgivenUp.ne_nil
    refine ⟨?_, Utf8.lossy_encode_append hstart hgivenUp⟩
    rw [List.length_append, List.length_append]
    omega

/-- No character starts with the byte `FF`, which is given up alone. -/
theorem givenUp_refused : ¬StartsCharacter [0xFF, 0x21] ∧ GivenUp [0xFF, 0x21] [0xFF] := by
  have hfirst : Utf8.first 0xFF = .refused := rfl
  constructor
  · rw [Utf8.startsCharacter_iff, hfirst]
    rintro (⟨c, ⟨⟩⟩ | ⟨u, t, n, ⟨⟩, -⟩)
  · refine .byte rfl fun b hne hb ht => ?_
    obtain ⟨x, t, rfl⟩ := List.exists_cons_of_ne_nil hne
    obtain ⟨rfl, -⟩ := List.cons_prefix_cons.mp hb
    obtain ⟨u, u', hu, -⟩ := Utf8.truncated_iff.mp ht
    cases hfirst.symm.trans hu

/-- The message of a guest that wrote a byte of no character in between, and of one whose last
character was cut off. -/
theorem exit_message_cutOff :
    classify (.error ⟨.exit 7, ["in start"]⟩) [0x31] [0xC3, 0xA9, 0xFF, 0x21] =
        .error (.executionExit 7 "é\uFFFD!") ∧
      classify (.error ⟨.exit 7, ["in start"]⟩) [0x31] [0xC3, 0xA9, 0xF0, 0x9F, 0x98] =
        .error (.executionExit 7 "é\uFFFD") := by
  obtain ⟨message, htold, -, hwhole, -, hreplaced, htruncated, -⟩ := exit_message
  have hbefore : encode "é" = [0xC3, 0xA9] := by with_unfolding_all decide
  have hbehind : encode "!" = [0x21] := by with_unfolding_all decide
  have hreplaced : message [0xC3, 0xA9, 0xFF, 0x21] = "é\uFFFD!" := by
    obtain ⟨hstart, hgivenUp⟩ := givenUp_refused
    have h := ((hreplaced "é" [0xFF, 0x21] nofun hstart).2 [0xFF] [0x21] rfl hgivenUp).2
    rw [hbefore, ← hbehind, hwhole, hbehind] at h
    exact h.trans (by decide)
  have htruncated : message [0xC3, 0xA9, 0xF0, 0x9F, 0x98] = "é\uFFFD" := by
    have hcut : Truncated [0xF0, 0x9F, 0x98] := ⟨'😀', by decide, by decide⟩
    have h := htruncated "é" [0xF0, 0x9F, 0x98] nofun hcut
    rw [hbefore] at h
    exact h.trans (by decide)
  have hcode : (7 : Int32) ≠ 0 := by decide
  rw [htold 7 _ _ _ hcode, htold 7 _ _ _ hcode, hreplaced, htruncated]
  exact ⟨rfl, rfl⟩

end ScriptSandbox.Evaluation
