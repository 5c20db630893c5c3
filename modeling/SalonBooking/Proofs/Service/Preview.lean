import SalonBooking.Proofs.Availability.Horizon
import SalonBooking.Proofs.Booking.Received
import SalonBooking.Proofs.Form.Refused

/-!
# Trying a selection

The service tells what it would say about a posted selection.  With an object for
a configuration there is an answer of status 200, whatever the selection holds,
but for what `Fails` lists: a configuration or further wishes that are not read,
and a text that the answer needs and that cannot be made or written.

* `isWritable_submissionJson_iff`: the parts of the answer that matter for that.
* `sent_answer_of_fails`, `exists_answer_of_not_fails`: what fails, and the answer
  to all else.
* `posted_selection_answered`: together with what is read of the selection.
* `posted_selection_unanswered`: further wishes that are no list.
-/

namespace SalonBooking

/-! ## Answers that can be written -/

/-- What is said about a selection can be written: the reasons why it cannot be sent or, if there
are none, its message, and its totals. -/
structure FormConfig.CanReport (limits : Limits) (config : FormConfig) (sel : Selection) :
    Prop where
  reasons : ∀ missing ∈ config.missing sel, Text.isWritable missing.message = true
  message : config.missing sel = [] → Text.isWritable (config.message sel) = true
  price : (limits.text? (config.catalogue.totals sel).price).isSome = true
  duration : (limits.text? (config.catalogue.totals sel).duration).isSome = true

section Writable

variable {limits : Limits}

theorem isWritable_textsJson_iff {texts : List String} :
    (textsJson texts).isWritable limits = true ↔ ∀ text ∈ texts, Text.isWritable text = true := by
  rw [textsJson, Json.isWritable, Json.areWritable_iff, List.forall_mem_map]
  rfl

theorem Phase.isWritable_name (phase : Phase) : Text.isWritable phase.name = true := by
  cases phase <;> decide

theorem isWritable_submissionJson_iff {config : FormConfig} {sel : Selection} :
    (config.submissionJson sel).isWritable limits = true ↔ config.CanReport limits sel := by
  simp (disch := decide) only [FormConfig.submissionJson, Json.isWritable_obj_cons_iff]
  rw [isWritable_textsJson_iff, List.forall_mem_map]
  constructor
  · rintro ⟨-, hreasons, -, hmessage, hprice, hduration, -⟩
    refine ⟨hreasons, fun hnone => ?_, hprice, hduration⟩
    rw [hnone] at hmessage
    exact hmessage
  · intro h
    refine ⟨rfl, h.reasons, Phase.isWritable_name _, ?_, h.price, h.duration, rfl⟩
    split
    · rename_i hnone
      exact h.message (List.isEmpty_iff.mp hnone)
    · rfl

end Writable

/-! ## Trials -/

namespace SubmissionRequest

/-- Why a trial has no answer. -/
inductive Fails (limits : Limits) (trial : SubmissionRequest) : Prop
  /-- The configuration is given up. -/
  | givenUp (h : (Source.value trial.config).IsGivenUp limits)
  /-- The configuration is stopped at an integer. -/
  | stopped (h : (Source.value trial.config).HoldsTooLong limits)
  /-- The further wishes are no list. -/
  | uncuttable (h : (trial.selection.get "alternates").IsUncuttable)
  /-- An integer in one of the further wishes has too many digits. -/
  | overlongWish (h : (trial.selection.get "alternates").HasOverlongWish limits)
  /-- An integer in an answer that is looked at has too many digits. -/
  | overlongAnswer {form : FormConfig} {sel : Selection}
      (hform : normalize limits (.value trial.config) = .ok form)
      (hsel : Selection.ofJson limits trial.selection = .ok sel)
      (h : ∃ answer ∈ form.shownAnswers sel, answer.fits limits = false)
  /-- A text or a number in the reply cannot be written. -/
  | unwritable {form : FormConfig} {sel : Selection}
      (hform : normalize limits (.value trial.config) = .ok form)
      (hsel : Selection.ofJson limits trial.selection = .ok sel) (h : ¬ form.CanReport limits sel)

section
variable {limits : Limits} {trial : SubmissionRequest} {form : FormConfig} {sel : Selection}
  (hform : normalize limits (.value trial.config) = .ok form)
  (hsel : Selection.ofJson limits trial.selection = .ok sel)

include hform hsel

/-- With a form and a selection the answer is what is said about them, if that can be said. -/
theorem answer_eq : trial.answer limits =
    if (form.shownAnswers sel).all (Json.fits limits) then .json 200 (form.submissionJson sel)
    else .failed := by
  rw [answer, hform]
  simp only [hsel]

/-- With a form and a selection a trial fails for an answer or for its reply. -/
theorem sent_answer_eq_failed (h : (∃ answer ∈ form.shownAnswers sel, answer.fits limits = false) ∨
    ¬ form.CanReport limits sel) : (trial.answer limits).sent limits = .failed := by
  rw [answer_eq hform hsel]
  split
  · rename_i hfits
    rcases h with ⟨answer, hanswer, hlong⟩ | hreport
    · rw [List.all_eq_true.mp hfits answer hanswer] at hlong
      cases hlong
    · exact if_neg (mt isWritable_submissionJson_iff.mp hreport)
  · rfl

end

variable {limits : Limits} {trial : SubmissionRequest}
  (hobject : (Source.value trial.config).HoldsObject limits)

include hobject

/-- A trial that fails is not answered. -/
theorem sent_answer_of_fails (h : trial.Fails limits) :
    (trial.answer limits).sent limits = .failed := by
  by_cases huntold : (Source.value trial.config).IsGivenUp limits ∨
      (Source.value trial.config).HoldsTooLong limits
  · obtain ⟨e, he, hmessage⟩ := untold_iff.mpr huntold
    rw [answer, he]
    simp only [Reply.badConfig, hmessage]
    rfl
  obtain ⟨hread, hshort⟩ := not_or.mp huntold
  obtain ⟨form, hform⟩ := exists_normalize hobject hread hshort
  have hunread (h : ¬ ∃ sel, Selection.ofJson limits trial.selection = .ok sel) :
      (trial.answer limits).sent limits = .failed := by
    rw [answer, hform]
    cases hsel : Selection.ofJson limits trial.selection with
    | error e => rfl
    | ok sel => exact absurd ⟨sel, hsel⟩ h
  cases h with
  | givenUp h => exact absurd h hread
  | stopped h => exact absurd h hshort
  | uncuttable h => exact hunread fun hsel => (Selection.exists_ofJson_iff.mp hsel).1 h
  | overlongWish h => exact hunread fun hsel => (Selection.exists_ofJson_iff.mp hsel).2 h
  | overlongAnswer hform hsel h => exact sent_answer_eq_failed hform hsel (Or.inl h)
  | unwritable hform hsel h => exact sent_answer_eq_failed hform hsel (Or.inr h)

/-- Every other trial is answered. -/
theorem exists_answer_of_not_fails (h : ¬ trial.Fails limits) :
    ∃ form sel, normalize limits (.value trial.config) = .ok form ∧
      Selection.ofJson limits trial.selection = .ok sel ∧
      (trial.answer limits).sent limits = .json 200 (form.submissionJson sel) := by
  obtain ⟨form, hform⟩ := exists_normalize hobject (fun hdeep => h (.givenUp hdeep))
    fun hlong => h (.stopped hlong)
  obtain ⟨sel, hsel⟩ := Selection.exists_ofJson_iff.mpr
    ⟨fun hwishes => h (.uncuttable hwishes), fun hwish => h (.overlongWish hwish)⟩
  refine ⟨form, sel, hform, hsel, ?_⟩
  have hfits : (form.shownAnswers sel).all (Json.fits limits) = true := by
    rw [List.all_eq_true]
    intro answer hanswer
    by_contra hlong
    exact h (.overlongAnswer hform hsel ⟨answer, hanswer, by simpa using hlong⟩)
  have hreport : form.CanReport limits sel := by
    by_contra hreport
    exact h (.unwritable hform hsel hreport)
  rw [answer_eq hform hsel, if_pos hfits]
  exact if_pos (isWritable_submissionJson_iff.mpr hreport)

end SubmissionRequest

/-- Where all integers of a selection fit the machine, those of its answers do. -/
theorem fits_of_mem_shownAnswers {limits : Limits} {posted : Json} {sel : Selection}
    (hfits : posted.fits limits = true) (hsel : Selection.ofJson limits posted = .ok sel)
    (form : FormConfig) : ∀ answer ∈ form.shownAnswers sel, answer.fits limits = true := by
  obtain ⟨_, -, rfl⟩ := Selection.ofJson_eq_ok_iff.mp hsel
  intro answer hanswer
  obtain ⟨field, -, rfl⟩ := List.mem_map.mp hanswer
  exact Json.fits_get (Json.fits_get hfits "custom_fields") field.id

/-- A posted selection is read unless its further wishes are no list or hold an integer that is not
converted; what is read is tidy, and its texts are those that were posted as texts.  Where all
integers in it fit the machine no wish and no answer is in the way.  A trial with an object for a
configuration fails for the listed reasons only; any other is answered with what is said about the
selection, whatever request it is.  The storage is left alone. -/
theorem posted_selection_answered (limits : Limits) (posted : Json) :
    ((∃ sel, Selection.ofJson limits posted = .ok sel) ↔
      ¬ (posted.get "alternates").IsUncuttable ∧
        ¬ (posted.get "alternates").HasOverlongWish limits) ∧
    (∀ sel, Selection.ofJson limits posted = .ok sel → sel.IsTidy ∧
      ∀ text ∈ sel.texts, posted.get text.1 = .str text.2 ∨
        text.2 = "" ∧ ∀ s, posted.get text.1 ≠ .str s) ∧
    (posted.fits limits = true → ¬ (posted.get "alternates").HasOverlongWish limits ∧
      ∀ sel (form : FormConfig), Selection.ofJson limits posted = .ok sel →
        ∀ answer ∈ form.shownAnswers sel, answer.fits limits = true) ∧
    ∀ (service : Service) request faults clock storage config, service.limits = limits →
      service.framework.read request = .ok (.previewSubmission ⟨config, posted⟩) →
      (Source.value config).HoldsObject limits →
      ((⟨config, posted⟩ : SubmissionRequest).Fails limits →
        service.answer request faults clock storage = (.failed, storage)) ∧
      (¬ (⟨config, posted⟩ : SubmissionRequest).Fails limits →
        ∃ form sel, normalize limits (.value config) = .ok form ∧
          Selection.ofJson limits posted = .ok sel ∧
          service.answer request faults clock storage =
            (.json 200 (form.submissionJson sel), storage)) := by
  refine ⟨Selection.exists_ofJson_iff, ?read, ?fits, ?answered⟩
  case read =>
    intro sel hsel
    refine ⟨Selection.isTidy_of_ofJson hsel, fun text htext => ?_⟩
    exact Selection.eq_textMember_iff.mp (Selection.texts_of_ofJson hsel text htext)
  case fits =>
    intro hfits
    exact ⟨Json.not_hasOverlongWish (Json.fits_get hfits "alternates"),
      fun _ form hsel => fits_of_mem_shownAnswers hfits hsel form⟩
  case answered =>
    rintro service request faults clock storage config rfl hread hobject
    rw [Service.answer_of_read hread, Service.perform]
    constructor
    · intro hfails
      rw [SubmissionRequest.sent_answer_of_fails hobject hfails]
    · intro hfails
      obtain ⟨form, sel, hform, hsel, hanswer⟩ :=
        SubmissionRequest.exists_answer_of_not_fails hobject hfails
      exact ⟨form, sel, hform, hsel, by rw [hanswer]⟩

/-- A selection in which hardly anything is of the kind that it should be. -/
def carelessPosted : Json :=
  .obj [("name", .int 5), ("phone", .str "090"), ("custom_fields", .arr []),
    ("alternates", .str "soon"), ("menus", .arr [.str "cut", .obj [("menu_id", .int 1)],
      .obj [("menu_id", .str "cut"), ("option_ids", .arr [.int 1, .str "wash"])],
      .obj [("menu_id", .str "cut"), ("option_ids", .str "dry")]])]

/-- What is read of it. -/
def carelessSelection : Selection :=
  { Selection.empty with
    phone := "090"
    menuIds := ["cut"]
    selectedOptions := [("cut", ["wash"])] }

/-- A selection with a number in the place of its further wishes. -/
def numberedPosted : Json :=
  .obj [("alternates", .int 1)]

/-- A request to try a selection with the form of a salon that says nothing. -/
def trialRequest (posted : Json) : Request :=
  ⟨"POST", "/api/forms/preview/submission", [],
    .value (.obj [("config", .obj []), ("selection", posted)])⟩

theorem find_submission :
    Endpoint.find "POST" "/api/forms/preview/submission" = .ok .previewSubmission := by
  have hlast : "/api/forms/preview/submission".toList.getLast? = some 'n' := by
    decide +kernel
  have hparts : Endpoint.ofPath "/api/forms/preview/submission" =
      Endpoint.ofParts ["", "api", "forms", "preview", "submission"] :=
    Endpoint.ofPath_eq_ofParts hlast (by decide) (by decide) (by decide +kernel)
  rw [Endpoint.find, hparts]
  rfl

/-- The body is the trial. -/
theorem read_trialRequest {posted : Json}
    (hbody : SubmissionRequest.ofJson (.obj [("config", .obj []), ("selection", posted)]) =
      .ok ⟨.obj [], posted⟩) :
    plainService.framework.read (trialRequest posted) =
      .ok (.previewSubmission ⟨.obj [], posted⟩) := by
  have hfind : Endpoint.find (trialRequest posted).method (trialRequest posted).path =
      .ok .previewSubmission := find_submission
  rw [plainService, Framework.read_standard hfind, Framework.readAt, trialRequest,
    Framework.readBody_value hbody]
  rfl

theorem holdsObject_nothing : (Source.value (.obj [])).HoldsObject .standard :=
  ⟨.obj [], rfl, rfl⟩

theorem not_fails_careless : ¬ (⟨.obj [], carelessPosted⟩ : SubmissionRequest).Fails .standard := by
  have huntold : ¬ ((Source.value (.obj [])).IsGivenUp .standard ∨
      (Source.value (.obj [])).HoldsTooLong .standard) := by
    rw [← untold_iff]
    rintro ⟨e, he, -⟩
    cases normalize_nothing.symm.trans he
  intro hfails
  cases hfails with
  | givenUp h => exact huntold (Or.inl h)
  | stopped h => exact huntold (Or.inr h)
  | uncuttable h => cases h
  | overlongWish h => exact Json.not_hasOverlongWish (by decide +kernel) h
  | overlongAnswer hform hsel h =>
    obtain rfl := Except.ok.inj (normalize_nothing.symm.trans hform)
    cases hsel
    obtain ⟨answer, hanswer, -⟩ := h
    cases hanswer
  | unwritable hform hsel h =>
    obtain rfl := Except.ok.inj (normalize_nothing.symm.trans hform)
    cases hsel
    exact h (isWritable_submissionJson_iff.mp (by decide +kernel))

/-- The careless selection is read and answered, the one with a number is not. -/
theorem posted_selection_answered_careless :
    carelessPosted.fits .standard = true ∧
      plainService.framework.read (trialRequest carelessPosted) =
        .ok (.previewSubmission ⟨.obj [], carelessPosted⟩) ∧
      (Source.value (.obj [])).HoldsObject .standard ∧
      (∃ sel, Selection.ofJson .standard carelessPosted = .ok sel ∧ sel.IsTidy ∧
        sel.menuIds = ["cut"] ∧ sel.selectedOptions = [("cut", ["wash"])] ∧ sel.name = "" ∧
        sel.phone = "090" ∧
        plainService.answer (trialRequest carelessPosted) {} Schedule.mondayMorning emptyStorage =
          (.json 200 ((bareConfig (.obj [])).submissionJson sel), emptyStorage)) ∧
      plainService.answer (trialRequest numberedPosted) {} Schedule.mondayMorning emptyStorage =
        (.failed, emptyStorage) := by
  have hcareless := @read_trialRequest carelessPosted rfl
  have hnumbered := @read_trialRequest numberedPosted rfl
  obtain ⟨-, htidy, -, hanswered⟩ := posted_selection_answered .standard carelessPosted
  obtain ⟨-, hanswer⟩ := hanswered plainService _ {} Schedule.mondayMorning emptyStorage _ rfl
    hcareless holdsObject_nothing
  obtain ⟨-, -, -, hunanswered⟩ := posted_selection_answered .standard numberedPosted
  obtain ⟨hfailed, -⟩ := hunanswered plainService _ {} Schedule.mondayMorning emptyStorage _ rfl
    hnumbered holdsObject_nothing
  refine ⟨by decide +kernel, hcareless, holdsObject_nothing, ⟨carelessSelection, rfl,
    (htidy _ rfl).1, rfl, rfl, rfl, rfl, ?_⟩, hfailed (.uncuttable (.int (by decide)))⟩
  obtain ⟨form, sel, hform, hsel, hjson⟩ := hanswer not_fails_careless
  obtain rfl := Except.ok.inj (normalize_nothing.symm.trans hform)
  cases hsel
  exact hjson

/-- With a number in the place of the further wishes a selection is not read, and the service fails
although the number is one of the values that count as not there. -/
theorem posted_selection_unanswered :
    Selection.ofJson .standard numberedPosted = .error .malformedAlternates ∧
      (Source.value (.obj [])).HoldsObject .standard ∧
      plainService.answer (trialRequest numberedPosted) {} Schedule.mondayMorning emptyStorage =
        (.bare 500, emptyStorage) := by
  refine ⟨rfl, holdsObject_nothing, ?_⟩
  rw [Service.answer_of_read (read_trialRequest rfl)]
  rfl

end SalonBooking
