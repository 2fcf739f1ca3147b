import MarketFeed.Proofs.Json.Extension
import MarketFeed.Proofs.Run.Failure

namespace MarketFeed

/-!
# Plans that were cut short

* `Plan.Entry.settles_read`, `Plan.settles_read` — a plan is over with its closing bracket.
* `Plan.exists_text_of_ofBytes` — a plan is loaded from bytes that are a text.
* `isBlankByte`, `isBlankByte_of_forall_isSpace` — blanks as the bytes of a file.
* `Plan.isBlankByte_of_ofBytes` — of two files that hold a plan, the longer one has more blanks.
* `Plan.load_truncated` — a plan that lacks more than blanks at its end is not loaded.
-/

open Json

/-! ### Plans are over with their closing bracket -/

/-- An entry is over with its closing bracket. -/
theorem Plan.Entry.settles_read : Settles Plan.Entry.schema.read := by
  apply Schema.settles_read
  simp only [Plan.Entry.schema, List.forall_mem_cons, List.not_mem_nil, false_implies, implies_true,
    and_true]
  refine ⟨fun d => ?_, fun d => ?_, fun d => ?_, fun d => ?_, fun d => ?_, fun d => ?_⟩
  · exact settles_readString.return fun name => { d with exchange? := some name }
  · exact settles_readTerm.return fun m => { d with market? := some m }
  · exact (settles_readList settles_readTerm.before).return fun ms =>
      { d with messages? := some ms }
  · exact (settles_readList settles_readString.before).return fun ss =>
      { d with symbols? := some ss }
  · exact settles_readBool.return fun b => { d with subscribe? := some b }
  · exact settles_readParams.return fun ps => { d with params? := some ps }

theorem Plan.settles_read : Settles Plan.schema.read := by
  apply Schema.settles_read
  have hoptional : Settles (readOptional readString) :=
    settles_readOptional settles_readString fun _ _ => skipSpaces_ne_nil_of_readString
  simp only [Plan.schema, List.forall_mem_cons, List.not_mem_nil, false_implies, implies_true,
    and_true]
  refine ⟨fun d => ?_, fun d => ?_, fun d => ?_⟩
  · exact hoptional.return fun name? => { d with moduleName? := some name? }
  · exact hoptional.return fun path? => { d with logPath? := some path? }
  · exact (settles_readList Plan.Entry.settles_read.before).return fun es =>
      { d with entries? := some es }

/-! ### Bytes -/

/-- A plan is loaded from the bytes of a text. -/
theorem Plan.exists_text_of_ofBytes {bytes : ByteArray} {p : Plan}
    (h : Plan.ofBytes bytes = .ok p) :
    ∃ text : String, bytes = text.toList.utf8Encode ∧ Plan.ofText text = .ok p := by
  unfold Plan.ofBytes at h
  split at h
  · cases h
  · rename_i text htext
    unfold String.fromUTF8? at htext
    split at htext
    · have hbytes : bytes = text.toByteArray := by
        rw [← Option.some.inj htext]
        rfl
      refine ⟨text, by rw [hbytes, String.utf8Encode_toList], ?_⟩
      cases hplan : Plan.ofText text with
      | error fault => rw [hplan] at h; cases h
      | ok q =>
        rw [hplan] at h
        exact congrArg _ (Except.ok.inj h)
    · cases htext

/-- The byte is a blank between tokens. -/
def isBlankByte (byte : UInt8) : Bool :=
  byte == 0x20 || byte == 0x09 || byte == 0x0A || byte == 0x0D

/-- A blank is written as one blank byte. -/
theorem isBlankByte_of_isSpace {c : Char} (h : isSpace c) :
    ∀ byte ∈ String.utf8EncodeChar c, isBlankByte byte := by
  apply List.all_eq_true.mp
  rcases isSpace_iff.mp h with rfl | rfl | rfl | rfl <;> decide

/-- Blanks are written as blank bytes. -/
theorem isBlankByte_of_forall_isSpace {cs : List Char} (h : ∀ c ∈ cs, isSpace c) :
    ∀ byte ∈ cs.utf8Encode.data, isBlankByte byte := by
  induction cs with
  | nil => simp
  | cons c cs ih =>
    rw [List.forall_mem_cons] at h
    intro byte hbyte
    rw [List.utf8Encode_cons, List.utf8Encode_singleton, ByteArray.data_append, Array.mem_append,
      List.data_toByteArray, List.mem_toArray] at hbyte
    exact hbyte.elim (isBlankByte_of_isSpace h.1 byte) (ih h.2 byte)

/-! ### Files that were cut short -/

/-- Of two files that hold a plan, one the beginning of the other, the longer one has more blanks
    and nothing else. -/
theorem Plan.isBlankByte_of_ofBytes {cut lost : ByteArray} {p q : Plan}
    (hcut : Plan.ofBytes cut = .ok p) (hwhole : Plan.ofBytes (cut ++ lost) = .ok q) :
    ∀ byte ∈ lost.data, isBlankByte byte := by
  obtain ⟨text, rfl, htext⟩ := Plan.exists_text_of_ofBytes hcut
  obtain ⟨whole, hbytes, hwhole⟩ := Plan.exists_text_of_ofBytes hwhole
  -- both are texts, so the cut is between two characters
  obtain ⟨cs, hcs⟩ := List.isPrefix_of_utf8Encode_append_eq_utf8Encode lost hbytes
  have hlost : lost = cs.utf8Encode := by
    rw [← hcs, List.utf8Encode_append] at hbytes
    exact (ByteArray.append_right_inj _).mp hbytes
  rw [hlost]
  exact isBlankByte_of_forall_isSpace
    (Plan.settles_read.isSpace_of_readText hcs.symm htext hwhole)

/-- **A plan that was cut short is not loaded.**  Where a file holds a plan, a file that holds only
    its beginning, without some byte that is no blank, holds no plan, wherever the cut is.  A run
    for it ends with 1 and prints nothing. -/
theorem Plan.load_truncated {files files' : Files} {path path' : String} {cut lost : ByteArray}
    {p : Plan} (hwhole : files.read path = .ok (cut ++ lost)) (hload : Plan.load files path = .ok p)
    (hcut : files'.read path' = .ok cut) (hlost : ∃ byte ∈ lost.data, ¬ isBlankByte byte) :
    (∃ e, Plan.load files' path' = .error e) ∧
    ∀ arguments inv preferred?, Invocation.ofArguments arguments = .ok inv →
      inv.command = .plan path' →
      ∃ o, run arguments files' preferred? = .ok o ∧ o.exitCode = 1 ∧ o.stdout = "" := by
  have hbytes : Plan.ofBytes (cut ++ lost) = .ok p := by
    rw [← hload, Plan.load, hwhole]
  have hfails : ∃ e, Plan.load files' path' = .error e := by
    cases hresult : Plan.load files' path' with
    | error e => exact ⟨e, rfl⟩
    | ok q =>
      have hbytes' : Plan.ofBytes cut = .ok q := by
        rw [← hresult, Plan.load, hcut]
      obtain ⟨byte, hbyte, hblank⟩ := hlost
      exact absurd (Plan.isBlankByte_of_ofBytes hbytes' hbytes byte hbyte) hblank
  refine ⟨hfails, fun arguments inv preferred? harguments hcommand => ?_⟩
  obtain ⟨e, he⟩ := hfails
  have hrun : inv.command.Fails files' (.load e) := by
    rw [hcommand, Command.fails_plan_iff]
    exact ⟨e, he, rfl⟩
  -- such a run ends before its log filter is read
  have hfilter : inv.PassesFilter files' preferred? :=
    Invocation.passesFilter_of_fails_plan hcommand hrun
  obtain ⟨hending, hstdout, -⟩ := Invocation.run_of_fails hrun hfilter
  exact ⟨inv.run files' preferred?, by rw [run, harguments]; rfl,
    by rw [Outcome.exitCode, hending]; rfl, hstdout⟩

/-- The second file is the first one, cut inside a character of a name that is no field. -/
theorem Plan.load_truncated_character :
    ∃ files : Files, files.contents = [
        ("whole", "\x7b\"café\":[1e3],\"subscriptions\":[]\x7d\n".toUTF8),
        ("cut", "\x7b\"caf".toUTF8.push 0xC3)] ∧
      Plan.load files "whole" = .ok { entries := [] } ∧
      (∃ e, Plan.load files "cut" = .error e) ∧
      ∃ o, run ["plan", "cut"] files none = .ok o ∧ o.exitCode = 1 ∧ o.stdout = "" := by
  let files : Files := {
    directory := "/"
    contents := [
      ("whole", "\x7b\"café\":[1e3],\"subscriptions\":[]\x7d\n".toUTF8),
      ("cut", "\x7b\"caf".toUTF8.push 0xC3)] }
  have hload : Plan.load files "whole" = .ok { entries := [] } := by decide +kernel
  obtain ⟨hfails, hrun⟩ := @Plan.load_truncated files files "whole" "cut"
    ("\x7b\"caf".toUTF8.push 0xC3)
    (ByteArray.mk #[0xA9] ++ "\":[1e3],\"subscriptions\":[]\x7d\n".toUTF8) _
    (by decide +kernel) hload (by decide +kernel) (by decide +kernel)
  exact ⟨files, rfl, hload, hfails,
    hrun ["plan", "cut"] { command := .plan "cut" } none (by decide +kernel) rfl⟩

end MarketFeed
