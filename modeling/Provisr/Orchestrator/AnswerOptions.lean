import Provisr.Orchestrator.PlanningContracts
import Provisr.Foundation.JsonOrder
import Provisr.Foundation.Sublists
import Provisr.Foundation.Exceptional

namespace Provisr.Orchestrator

open Provisr.Foundation Zod

variable {q : ClarificationQuestion} {f : AnswerField} {os : List String} {o : String} {given out : JsFields}

theorem toOption_eq_some {α : Type} {n : Nullish α} {a : α} : n.toOption = some a ↔ n = .value a := by
  cases n <;> simp [Nullish.toOption]

theorem nullish_ok {α : Type} {s : Schema α} {j : Option JsJson} {a : α} (run : nullish s j = .ok (.value a)) :
    s j = .ok a := by
  unfold nullish at run
  split at run
  · cases run
  · cases run
  · obtain ⟨b, read, same⟩ := map_ok_iff.mp (show map Nullish.value s _ = _ from run)
    cases same
    exact read

structure Answerable (f : AnswerField) : Prop where
  text : ∀ os, f.options = .value os → f.type = .string ∨ f.type = .strings
  nonempty : ∀ os, f.options = .value os → ∀ o ∈ os, 1 ≤ JsText.length o

theorem strings_nonempty {j : Option JsJson} {low : Nat} (run : arrayOf low none Orchestrator.nonempty j = .ok os) :
    ∀ o ∈ os, 1 ≤ JsText.length o := by
  intro o mem
  obtain ⟨items, -, -, -, run⟩ := arrayOf_ok_iff.mp run
  obtain ⟨x, -, read⟩ := exists_of_forall₂_right (elements_ok_iff.mp run) mem
  simpa using (check_ok_iff.mp read).2

theorem answerFieldSchema_ok {j : Option JsJson} (run : answerFieldSchema j = .ok f) : Answerable f := by
  obtain ⟨run, typed⟩ := check_ok_iff.mp run
  obtain ⟨fs, -, -, run⟩ := strict_ok run
  obtain ⟨⟨name, type, options⟩, read, same⟩ := bind_ok_iff.mp run
  cases same
  obtain ⟨-, read⟩ := both_ok read
  obtain ⟨-, read⟩ := both_ok read
  constructor
  · intro os given
    simp only [Bool.or_eq_true, beq_iff_eq, Option.isNone_iff_eq_none] at typed
    rcases typed with (none | text) | list
    · rw [toOption_eq_some.mpr given] at none
      cases none
    · exact .inl text
    · exact .inr list
  · rintro os rfl
    exact strings_nonempty (nullish_ok read)

theorem questionSchema_ok {j : Option JsJson} (run : questionSchema j = .ok q) :
    (q.fields.map AnswerField.name).Nodup ∧ ∀ f ∈ q.fields, Answerable f := by
  obtain ⟨run, distinct⟩ := check_ok_iff.mp run
  obtain ⟨fs, -, -, run⟩ := strict_ok run
  obtain ⟨⟨⟨question, fields, questionId⟩, ⟨inputType, options⟩, required, fieldMapping⟩, read, same⟩ := bind_ok_iff.mp run
  cases same
  refine ⟨by simpa using distinct, ?_⟩
  obtain ⟨read, -⟩ := both_ok read
  obtain ⟨-, read⟩ := both_ok read
  obtain ⟨read, -⟩ := both_ok read
  intro f mem
  unfold withDefault at read
  split at read
  · cases read
    obtain rfl := List.mem_singleton.mp mem
    exact ⟨nofun, nofun⟩
  · obtain ⟨items, -, -, -, read⟩ := arrayOf_ok_iff.mp read
    obtain ⟨x, -, read⟩ := exists_of_forall₂_right (elements_ok_iff.mp read) mem
    exact answerFieldSchema_ok read

def answerLimit : AnswerType → Nat
  | .strings => 2000
  | _ => 10000

-- The option survives the trimming under which an answer is compared, and the answer's own bound.
def Selectable (f : AnswerField) (os : List String) (o : String) : Prop :=
  JsText.trim o ∈ os ∧ JsText.length (JsText.trim o) ≤ answerLimit f.type

instance : Decidable (Selectable f os o) := inferInstanceAs (Decidable (_ ∧ _))

-- The option is given as it is offered, alone or in a list whose other entries are accepted, and
-- every other field is given an accepted answer.
structure Submits (q : ClarificationQuestion) (f : AnswerField) (o : String) (given : JsFields) : Prop where
  known : ∀ p ∈ given, p.1 ∈ q.fields.map AnswerField.name
  others : ∀ g ∈ q.fields, g ≠ f → ∃ a, answerSchema g (given.lookup g.name) = .ok a
  alone : f.type ≠ .strings → given.lookup f.name = some (.str o)
  listed : f.type = .strings → ∃ before after : List JsJson,
    given.lookup f.name = some (.arr (before ++ .str o :: after)) ∧ before.length + after.length < 50 ∧
      ∀ x ∈ before ++ after, ∃ a, answerSchema f (some (.arr [x])) = .ok a

theorem answerSchema_text (text : f.type = .string) :
    (∃ a, answerSchema f (some (.str o)) = .ok a) ↔
      ∃ s, boundedText 10000 (some (.str o)) = .ok s ∧ allowedText f.options s = true := by
  unfold answerSchema
  rw [text]
  constructor
  · rintro ⟨a, run⟩
    obtain ⟨s, run, -⟩ := map_ok_iff.mp run
    exact ⟨s, check_ok_iff.mp run⟩
  · rintro ⟨s, run⟩
    exact ⟨.str s, map_ok_iff.mpr ⟨s, check_ok_iff.mpr run, rfl⟩⟩

theorem answerSchema_strings (list : f.type = .strings) {items : List JsJson} :
    (∃ a, answerSchema f (some (.arr items)) = .ok a) ↔
      (1 ≤ items.length ∧ items.length ≤ 50) ∧
        ∀ x ∈ items, ∃ s, boundedText 2000 (some x) = .ok s ∧ allowedText f.options s = true := by
  rw [← elements_all_iff]
  unfold answerSchema
  rw [list]
  constructor
  · rintro ⟨a, run⟩
    obtain ⟨xs, run, -⟩ := map_ok_iff.mp run
    obtain ⟨run, allowed⟩ := check_ok_iff.mp run
    obtain ⟨_, same, low, high, run⟩ := arrayOf_ok_iff.mp run
    cases same
    exact ⟨⟨low, high 50 rfl⟩, xs, run, allowed⟩
  · rintro ⟨⟨low, high⟩, xs, run, allowed⟩
    refine ⟨.arr (xs.map .str), map_ok_iff.mpr ⟨xs, check_ok_iff.mpr ⟨?_, allowed⟩, rfl⟩⟩
    exact arrayOf_ok_iff.mpr ⟨items, rfl, low, fun n same => Option.some.inj same ▸ high, run⟩

theorem answerShape_cons (given : JsFields) (f : AnswerField) (fs : List AnswerField) :
    answerShape given (f :: fs) = (both (answerSchema f (given.lookup f.name)) (answerShape given fs)).map
      fun p => (f.name, p.1) :: p.2 :=
  rfl

theorem answerShape_ok_iff {fs : List AnswerField} :
    (∃ out, answerShape given fs = .ok out) ↔ ∀ f ∈ fs, ∃ a, answerSchema f (given.lookup f.name) = .ok a := by
  induction fs with
  | nil => simp [answerShape]
  | cons f fs ih =>
    rw [List.forall_mem_cons, ← ih, answerShape_cons]
    constructor
    · rintro ⟨out, run⟩
      obtain ⟨p, together, -⟩ := checkedMap_ok_iff.mp run
      obtain ⟨head, rest⟩ := both_ok together
      exact ⟨⟨_, head⟩, _, rest⟩
    · rintro ⟨⟨a, head⟩, rest, run⟩
      have together : both (answerSchema f (given.lookup f.name)) (answerShape given fs) = .ok (a, rest) :=
        both_ok_iff.mpr ⟨head, run⟩
      rw [together]
      exact ⟨_, rfl⟩

theorem validateAnswers_ok_iff :
    (∃ out, validateAnswers q (some (.obj given)) = .ok out) ↔
      (∀ p ∈ given, p.1 ∈ q.fields.map AnswerField.name) ∧
        ∀ f ∈ q.fields, ∃ a, answerSchema f (given.lookup f.name) = .ok a := by
  rw [← answerShape_ok_iff]
  constructor
  · rintro ⟨out, run⟩
    obtain ⟨_, same, known, run⟩ := strict_ok (parsed_ok_iff.mp run)
    cases same
    exact ⟨known, out, run⟩
  · rintro ⟨known, out, run⟩
    exact ⟨out, parsed_ok_iff.mpr (strict_ok_iff.mpr ⟨given, rfl, known, run⟩)⟩

theorem boundedTexts_again {n low : Nat} {high : Option Nat} {j : Option JsJson} {xs : List String}
    (run : arrayOf low high (boundedText n) j = .ok xs) :
    arrayOf low high (boundedText n) (some (.arr (xs.map .str))) = .ok xs := by
  obtain ⟨least, most⟩ := arrayOf_length run
  obtain ⟨items, -, -, -, read⟩ := arrayOf_ok_iff.mp run
  refine arrayOf_ok_iff.mpr ⟨_, rfl, by rwa [List.length_map], by rwa [List.length_map], ?_⟩
  exact elements_again (fun _ _ read => boundedText_again read) read

theorem answerSchema_again {j : Option JsJson} {a : JsJson} (run : answerSchema f j = .ok a) :
    answerSchema f (some a) = .ok a := by
  unfold answerSchema at run ⊢
  cases type : f.type with
  | number =>
    rw [type] at run
    obtain ⟨n, -, rfl⟩ := map_ok_iff.mp run
    rfl
  | boolean =>
    rw [type] at run
    obtain ⟨b, -, rfl⟩ := map_ok_iff.mp run
    rfl
  | string =>
    rw [type] at run
    obtain ⟨s, read, rfl⟩ := map_ok_iff.mp run
    obtain ⟨read, allowed⟩ := check_ok_iff.mp read
    exact map_ok_iff.mpr ⟨s, check_ok_iff.mpr ⟨boundedText_again read, allowed⟩, rfl⟩
  | strings =>
    rw [type] at run
    obtain ⟨xs, read, rfl⟩ := map_ok_iff.mp run
    obtain ⟨read, allowed⟩ := check_ok_iff.mp read
    exact map_ok_iff.mpr ⟨xs, check_ok_iff.mpr ⟨boundedTexts_again read, allowed⟩, rfl⟩

theorem answerShape_again {fs : List AnswerField} {view : JsFields} (run : answerShape given fs = .ok out)
    (shown : ∀ p ∈ out, view.lookup p.1 = some p.2) : answerShape view fs = .ok out := by
  induction fs generalizing out with
  | nil => exact run
  | cons f fs ih =>
    rw [answerShape_cons] at run ⊢
    obtain ⟨p, together, rfl⟩ := checkedMap_ok_iff.mp run
    obtain ⟨head, rest⟩ := both_ok together
    have here : view.lookup f.name = some p.1 := shown _ List.mem_cons_self
    have tail := ih rest fun p mem => shown p (List.mem_cons_of_mem _ mem)
    refine checkedMap_ok_iff.mpr ⟨p, both_ok_iff.mpr ⟨?_, tail⟩, rfl⟩
    rw [here]
    exact answerSchema_again head

theorem validateAnswers_again (distinct : (q.fields.map AnswerField.name).Nodup) {answers : Option JsJson}
    (run : validateAnswers q answers = .ok out) : validateAnswers q (some (.obj out)) = .ok out := by
  have keys := validateAnswers_keys run
  obtain ⟨given, -, -, shape⟩ := strict_ok (parsed_ok_iff.mp run)
  have shown : ∀ p ∈ out, out.lookup p.1 = some p.2 := fun p mem =>
    (Json.lookup_eq_some_iff (by rw [keys]; exact distinct)).mpr mem
  have known : ∀ p ∈ out, p.1 ∈ q.fields.map AnswerField.name := by
    intro p mem
    rw [← keys]
    exact List.mem_map_of_mem mem
  exact parsed_ok_iff.mpr (strict_ok_iff.mpr ⟨out, rfl, known, answerShape_again shape shown⟩)

theorem boundedText_option (answerable : Answerable f) (options : f.options = .value os) :
    (∃ s, boundedText (answerLimit f.type) (some (.str o)) = .ok s ∧ allowedText f.options s = true) ↔
      Selectable f os o := by
  have allowed : ∀ s, allowedText f.options s = true ↔ s ∈ os := by
    intro s
    simp [allowedText, options, Nullish.toOption]
  constructor
  · rintro ⟨s, run, mem⟩
    obtain ⟨t, same, rfl, -, high⟩ := boundedText_ok_iff.mp run
    cases same
    exact ⟨(allowed _).mp mem, high⟩
  · rintro ⟨mem, high⟩
    have low := answerable.nonempty os options _ mem
    exact ⟨_, boundedText_ok_iff.mpr ⟨o, rfl, rfl, low, high⟩, (allowed _).mpr mem⟩

theorem submitted_option (answerable : Answerable f) (options : f.options = .value os)
    (submits : Submits q f o given) :
    (∃ a, answerSchema f (given.lookup f.name) = .ok a) ↔ Selectable f os o := by
  rw [← boundedText_option answerable options]
  rcases answerable.text os options with text | list
  · rw [submits.alone (by simp [text]), answerSchema_text text, text]
    rfl
  · obtain ⟨before, after, same, room, rest⟩ := submits.listed list
    rw [same, answerSchema_strings list, list]
    constructor
    · rintro ⟨-, each⟩
      exact each (.str o) (by simp)
    · rintro ⟨s, here⟩
      have high : (before ++ Json.str o :: after).length ≤ 50 := by
        simp only [List.length_append, List.length_cons]
        omega
      refine ⟨⟨by simp only [List.length_append, List.length_cons]; omega, high⟩, fun x mem => ?_⟩
      rcases List.mem_append.mp mem with first | last
      · exact (answerSchema_strings list).mp (rest x (List.mem_append_left _ first)) |>.2 x List.mem_cons_self
      · rcases List.mem_cons.mp last with rfl | last
        · exact ⟨s, here⟩
        · exact (answerSchema_strings list).mp (rest x (List.mem_append_right _ last)) |>.2 x List.mem_cons_self

theorem offered_option_selectable {j : Option JsJson} (accepted : questionSchema j = .ok q) :
    (∀ f ∈ q.fields, ∀ os, f.options = .value os → ∀ o ∈ os, ∀ given, Submits q f o given →
      ((∃ out, validateAnswers q (some (.obj given)) = .ok out) ↔ Selectable f os o)) ∧
    (∀ answers out, validateAnswers q answers = .ok out → validateAnswers q (some (.obj out)) = .ok out) := by
  obtain ⟨distinct, answerable⟩ := questionSchema_ok accepted
  refine ⟨fun f mem os options o offered given submits => ?_, fun answers out => validateAnswers_again distinct⟩
  rw [validateAnswers_ok_iff, ← submitted_option (answerable f mem) options submits]
  constructor
  · rintro ⟨-, each⟩
    exact each f mem
  · intro own
    refine ⟨submits.known, fun g among => ?_⟩
    by_cases same : g = f
    · rw [same]
      exact own
    · exact submits.others g among same

section Example

def regionQuestion (option : String) : ClarificationQuestion :=
  ⟨"Which region?", [⟨"region", .string, .value [option, "eu-west-1"]⟩], .undefined, .undefined, .undefined, .undefined,
    .undefined⟩

def regionAnswer (option : String) : JsFields := [("region", .str option)]

theorem regionAnswer_submits (option : String) :
    Submits (regionQuestion option) ⟨"region", .string, .value [option, "eu-west-1"]⟩ option (regionAnswer option) where
  known := by simp [regionQuestion, regionAnswer]
  others := by simp [regionQuestion]
  alone _ := rfl
  listed := nofun

theorem offered_option_selectable_sample :
    questionSchema (some (regionQuestion "us-east-1").toJson) = .ok (regionQuestion "us-east-1") ∧
      Selectable ⟨"region", .string, .value ["us-east-1", "eu-west-1"]⟩ ["us-east-1", "eu-west-1"] "us-east-1" ∧
      ∃ out, validateAnswers (regionQuestion "us-east-1") (some (.obj (regionAnswer "us-east-1"))) = .ok out := by
  have accepted : questionSchema (some (regionQuestion "us-east-1").toJson) = .ok (regionQuestion "us-east-1") := by
    decide
  have selectable : Selectable ⟨"region", .string, .value ["us-east-1", "eu-west-1"]⟩ ["us-east-1", "eu-west-1"]
      "us-east-1" := by
    decide
  refine ⟨accepted, selectable, ?_⟩
  exact ((offered_option_selectable accepted).1 _ List.mem_cons_self _ rfl "us-east-1" List.mem_cons_self _
    (regionAnswer_submits "us-east-1")).mpr selectable

theorem padded_option_rejected :
    ¬ ∀ j q, questionSchema j = .ok q → ∀ f ∈ q.fields, ∀ os, f.options = .value os → ∀ o ∈ os, ∀ given,
      Submits q f o given → ∃ out, validateAnswers q (some (.obj given)) = .ok out := by
  intro claim
  have accepted : questionSchema (some (regionQuestion " us-east-1").toJson) = .ok (regionQuestion " us-east-1") := by
    decide
  obtain ⟨out, run⟩ := claim _ _ accepted _ List.mem_cons_self _ rfl " us-east-1" List.mem_cons_self _
    (regionAnswer_submits " us-east-1")
  have refused : validateAnswers (regionQuestion " us-east-1") (some (.obj (regionAnswer " us-east-1"))) =
      .error ["custom"] := by
    decide
  rw [refused] at run
  cases run

end Example

end Provisr.Orchestrator
