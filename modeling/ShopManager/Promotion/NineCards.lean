import Mathlib.Data.List.Perm.Subperm
import ShopManager.Library.Key
import ShopManager.Promotion.Model

/-!
# No stuck player and no false winner

Cards of one person in one event are to differ, and whoever has opened all nine there wins.  The
card that an applicant starts with may be one that she was given for inviting, and the cards that
a winner is counted by are those of all events.
-/

namespace ShopManager.Promotion

open Library Library.Tx Library.Execution Library.Key

/-! ## The rules -/

/-- Rows that `P` relates are one row. -/
def Apart (P : RedEnvelope → RedEnvelope → Prop) (t : Table RedEnvelope) : Prop :=
  ∀ a ∈ t, ∀ b ∈ t, P a b → a.id = b.id

def SameKey (a b : RedEnvelope) : Prop := a.uniKey = b.uniKey

def CardOf (customerId eventId : Nat) (envelope : RedEnvelope) : Prop :=
  envelope.customerId = customerId ∧ envelope.eventId = eventId ∧ envelope.type = .card

def SameCard (a b : RedEnvelope) : Prop :=
  CardOf b.customerId b.eventId a ∧ b.type = .card ∧ a.value = b.value

def HasAll (s : PromotionDb) (eventId customerId : Nat) : Prop :=
  ∀ value ∈ nine, ∃ envelope ∈ s.envelopes,
    CardOf customerId eventId envelope ∧ envelope.opened = true ∧ envelope.value = value

def Wins (s : PromotionDb) (eventId customerId : Nat) : Prop :=
  ∃ winner ∈ s.winners, winner.eventId = eventId ∧ winner.customerId = customerId

structure Fair (s : PromotionDb) : Prop where
  keys : Apart SameKey s.envelopes
  cards : Apart SameCard s.envelopes
  values : ∀ envelope ∈ s.envelopes, envelope.type = .card → envelope.value ∈ nine
  winnerKeys : ∀ winner ∈ s.winners, winner.uniKey = winnerKey winner.eventId winner.customerId
  winners : ∀ eventId customerId, Wins s eventId customerId ↔ HasAll s eventId customerId

/-- The envelopes that an activation adds: one for the inviter at most, and one for the
applicant. -/
def AtMostOne (application : XLSampleApply) (s s' : PromotionDb) : Prop :=
  ∃ invited applied : List RedEnvelope,
    s'.envelopes.rows = s.envelopes.rows ++ invited ++ applied ∧
    invited.length ≤ 1 ∧ (∀ envelope ∈ invited, envelope.customerId = application.fromCustomer) ∧
    applied.length ≤ 1 ∧ ∀ envelope ∈ applied, envelope.customerId = application.customerId

structure Good (s : PromotionDb) (op : PromotionOp) : Prop where
  fair : Fair (op.exec s)
  quiet : ∀ application draw, op = .activate application draw →
    (op.call.run s).1 = .ok () ∧ AtMostOne application s (op.exec s)

def holds (s : PromotionDb) (customerId eventId value : Nat) : Prop :=
  ∃ envelope ∈ s.envelopes, CardOf customerId eventId envelope ∧ envelope.value = value

instance (customerId eventId : Nat) (envelope : RedEnvelope) :
    Decidable (CardOf customerId eventId envelope) :=
  inferInstanceAs (Decidable (_ ∧ _))

instance (s : PromotionDb) (customerId eventId value : Nat) :
    Decidable (holds s customerId eventId value) :=
  inferInstanceAs (Decidable (∃ envelope ∈ s.envelopes.rows, _))

def freeSlots (values : List Nat) : List Nat := nine.filter fun value => value ∉ values

def InvitesHerself (s : PromotionDb) (application : XLSampleApply) (draw : Draw) : Prop :=
  application.fromCustomer = application.customerId ∧ application.fromCustomer ≠ 0 ∧
    s.known application.uniKey1 = false ∧ draw.cash = false ∧
    draw.slotPlace % (9 - (s.cardsOf application.customerId application.eventId).length) = 0

instance (s : PromotionDb) (application : XLSampleApply) (draw : Draw) :
    Decidable (InvitesHerself s application draw) :=
  inferInstanceAs (Decidable (_ ∧ _))

def openedIn (s : PromotionDb) (customerId eventId : Nat) : List RedEnvelope :=
  s.envelopes.filter fun envelope =>
    CardOf customerId eventId envelope ∧ envelope.opened = true

/-- An applicant who is given her first card does not hold it, and a ninth opened card is the
ninth of its event and of a customer who has a row. -/
def Fits (s : PromotionDb) : PromotionOp → Prop
  | .activate application draw =>
      application.activated = false ∨ s.known application.uniKey2 = true ∨
        (¬ holds s application.customerId application.eventId 1 ∧
          ¬ InvitesHerself s application draw)
  | .openEnvelope envelopeId =>
      ∀ envelope ∈ s.envelopes.get? envelopeId, envelope.opened = false →
        envelope.type = .card →
        ((9 ≤ s.cardNum envelope.customerId + 1 ∧ s.customers envelope.customerId = true) ↔
          9 ≤ (openedIn s envelope.customerId envelope.eventId).length + 1)

instance (s : PromotionDb) (op : PromotionOp) : Decidable (Fits s op) := by
  cases op <;> unfold Fits <;> infer_instance

/-! ## Drawing a card -/

theorem removeAll_eq {values : List Nat} : ∀ {slots : List Nat}, slots.Nodup → values.Nodup →
    values ⊆ slots → removeAll slots values = .ok (slots.filter fun value => value ∉ values) := by
  induction values with
  | nil =>
    intro slots _ _ _
    simp [removeAll]
  | cons value values ih =>
    intro slots hslots hvalues hsub
    obtain ⟨hnot, hvalues⟩ := List.nodup_cons.mp hvalues
    unfold removeAll
    rw [if_pos (hsub List.mem_cons_self)]
    have hrest : values ⊆ slots.erase value := fun other hother =>
      (List.Nodup.mem_erase_iff hslots).mpr
        ⟨fun heq => hnot (heq ▸ hother), hsub (List.mem_cons_of_mem _ hother)⟩
    rw [ih (hslots.erase value) hvalues hrest, hslots.erase_eq_filter, List.filter_filter]
    congr 1
    refine List.filter_congr fun other _ => ?_
    by_cases heq : other = value
    · simp [heq]
    · simp [heq]

theorem length_freeSlots {values : List Nat} (hnodup : values.Nodup) (hsub : values ⊆ nine) :
    (freeSlots values).length = 9 - values.length := by
  have hperm : (nine.filter fun value => value ∈ values).Perm values := by
    refine (List.perm_ext_iff_of_nodup (List.Nodup.filter _ (by decide)) hnodup).mpr fun v => ?_
    rw [List.mem_filter, decide_eq_true_eq]
    exact and_iff_right_of_imp fun h => hsub h
  have hsum := List.length_eq_length_filter_add (l := nine) fun value => decide (value ∈ values)
  rw [hperm.length_eq] at hsum
  have hfree : (freeSlots values).length =
      (nine.filter fun value => !decide (value ∈ values)).length := by
    unfold freeSlots
    simp
  rw [hfree]
  have hnine : nine.length = 9 := rfl
  omega

theorem choice_ok (place : Nat) {values : List Nat} (h : values ≠ []) :
    ∃ value ∈ values, choice place values = .ok value := by
  have hlt : place % values.length < values.length :=
    Nat.mod_lt _ (List.length_pos_of_ne_nil h)
  refine ⟨values[place % values.length], List.getElem_mem hlt, ?_⟩
  unfold choice
  rw [List.getElem?_eq_getElem hlt]

theorem choice_head {place value chosen : Nat} {values : List Nat}
    (hnodup : (value :: values).Nodup) (h : choice place (value :: values) = .ok chosen) :
    chosen = value ↔ place % (value :: values).length = 0 := by
  have hlt : place % (value :: values).length < (value :: values).length :=
    Nat.mod_lt _ (List.length_pos_of_ne_nil (List.cons_ne_nil _ _))
  unfold choice at h
  rw [List.getElem?_eq_getElem hlt] at h
  obtain rfl := Except.ok.inj h
  change (value :: values)[place % (value :: values).length] = (value :: values)[0] ↔ _
  exact hnodup.getElem_inj_iff

theorem cashPair_run (draw : Draw) (s : PromotionDb) :
    ∃ value, (cashPair draw).run s = (.ok (.cash, value), s) := by
  obtain ⟨value, -, hvalue⟩ := choice_ok draw.cashPlace (show cashValues ≠ [] by decide)
  refine ⟨value, ?_⟩
  unfold cashPair genCashValue
  rw [ofExcept_bind_run, hvalue]
  rfl

variable {s s' : PromotionDb} {envelope : RedEnvelope} {customerId eventId : Nat}

theorem mem_cardsOf :
    envelope ∈ s.cardsOf customerId eventId ↔
      envelope ∈ s.envelopes ∧ CardOf customerId eventId envelope := by
  unfold PromotionDb.cardsOf Table.filter
  rw [List.mem_filter, decide_eq_true_eq]
  rfl

theorem nodup_values (hcards : Apart SameCard s.envelopes) {rows : List RedEnvelope}
    (hnodup : (rows.map RedEnvelope.id).Nodup)
    (hrows : ∀ envelope ∈ rows, envelope ∈ s.envelopes ∧ CardOf customerId eventId envelope) :
    (rows.map RedEnvelope.value).Nodup := by
  refine (List.nodup_map_iff_inj_on hnodup.of_map).mpr ?_
  intro a ha b hb hvalue
  obtain ⟨hmem, hcard⟩ := hrows a ha
  obtain ⟨hmem', hcard'⟩ := hrows b hb
  refine List.inj_on_of_nodup_map hnodup ha hb (hcards a hmem b hmem' ⟨?_, hcard'.2.2, hvalue⟩)
  exact ⟨hcard.1.trans hcard'.1.symm, hcard.2.1.trans hcard'.2.1.symm, hcard.2.2⟩

theorem values_cardsOf (h : Fair s) (customerId eventId : Nat) :
    ((s.cardsOf customerId eventId).map RedEnvelope.value).Nodup ∧
      (s.cardsOf customerId eventId).map RedEnvelope.value ⊆ nine := by
  constructor
  · exact nodup_values h.cards (s.envelopes.nodup_pk_filter _) fun _ => mem_cardsOf.mp
  · intro value hvalue
    obtain ⟨envelope, henvelope, rfl⟩ := List.mem_map.mp hvalue
    obtain ⟨hmem, hcard⟩ := mem_cardsOf.mp henvelope
    exact h.values envelope hmem hcard.2.2

theorem mem_values_cardsOf {value : Nat} :
    value ∈ (s.cardsOf customerId eventId).map RedEnvelope.value ↔
      holds s customerId eventId value := by
  rw [List.mem_map]
  constructor
  · rintro ⟨envelope, henvelope, rfl⟩
    obtain ⟨hmem, hcard⟩ := mem_cardsOf.mp henvelope
    exact ⟨envelope, hmem, hcard, rfl⟩
  · rintro ⟨envelope, hmem, hcard, rfl⟩
    exact ⟨envelope, mem_cardsOf.mpr ⟨hmem, hcard⟩, rfl⟩

structure Drawn (s : PromotionDb) (draw : Draw) (customerId eventId : Nat)
    (pair : EnvelopeType × Nat) : Prop where
  card : pair.1 = .card → pair.2 ∈ nine ∧ ¬ holds s customerId eventId pair.2
  first : ¬ holds s customerId eventId 1 → ((pair.1 = .card ∧ pair.2 = 1) ↔
    draw.cash = false ∧ draw.slotPlace % (9 - (s.cardsOf customerId eventId).length) = 0)

theorem genEnvelopeTypeValuePair_run (h : Fair s) (draw : Draw) (customerId eventId : Nat) :
    ∃ pair, (genEnvelopeTypeValuePair draw customerId eventId).run s = (.ok pair, s) ∧
      Drawn s draw customerId eventId pair := by
  obtain ⟨hnodup, hsub⟩ := values_cardsOf h customerId eventId
  have hlength := length_freeSlots hnodup hsub
  rw [List.length_map] at hlength
  have hfirst : ¬ holds s customerId eventId 1 →
      (freeSlots ((s.cardsOf customerId eventId).map RedEnvelope.value)) =
        1 :: [2, 3, 4, 5, 6, 7, 8, 9].filter fun value =>
          value ∉ (s.cardsOf customerId eventId).map RedEnvelope.value := by
    intro hone
    unfold freeSlots nine
    rw [List.filter_cons_of_pos]
    rw [decide_eq_true_eq, mem_values_cardsOf]
    exact hone
  unfold genEnvelopeTypeValuePair
  rw [gets_bind_run]
  by_cases hcash : 9 ≤ (s.cardsOf customerId eventId).length ∨ draw.cash = true
  · rw [if_pos hcash]
    obtain ⟨value, hrun⟩ := cashPair_run draw s
    refine ⟨(.cash, value), hrun, fun hcard => (nomatch hcard), fun hone => ?_⟩
    refine iff_of_false (fun hcard => nomatch hcard.1) fun hdraw => ?_
    rcases hcash with hfull | htrue
    · rw [hfirst hone, List.length_cons] at hlength
      omega
    · exact Bool.false_ne_true (hdraw.1.symm.trans htrue)
  · rw [if_neg hcash]
    obtain ⟨hmore, hcoin⟩ := not_or.mp hcash
    have hnone : freeSlots ((s.cardsOf customerId eventId).map RedEnvelope.value) ≠ [] := by
      refine List.ne_nil_of_length_pos ?_
      rw [hlength]
      omega
    obtain ⟨value, hvalue, hchoice⟩ := choice_ok draw.slotPlace hnone
    refine ⟨(.card, value), ?_, fun _ => ?_, fun hone => ?_⟩
    · unfold cardPair
      rw [ofExcept_bind_run, removeAll_eq (by decide) hnodup hsub]
      dsimp only
      have hchosen := hchoice
      unfold freeSlots at hchosen
      rw [ofExcept_bind_run, hchosen]
      rfl
    · obtain ⟨hmem, hnot⟩ := List.mem_filter.mp hvalue
      rw [decide_eq_true_eq, mem_values_cardsOf] at hnot
      exact ⟨hmem, hnot⟩
    · have hslots := hfirst hone
      rw [hslots] at hchoice
      have hslotsNodup : (freeSlots ((s.cardsOf customerId eventId).map
          RedEnvelope.value)).Nodup := List.Nodup.filter _ (by decide)
      rw [hslots] at hslotsNodup
      have hhead := choice_head hslotsNodup hchoice
      rw [← hslots, hlength] at hhead
      have hfalse : draw.cash = false := Bool.of_not_eq_true hcoin
      exact ⟨fun hcard => ⟨hfalse, hhead.mp hcard.2⟩, fun hdraw => ⟨rfl, hhead.mpr hdraw.2⟩⟩

def PromotionDb.addEnvelope (s : PromotionDb) (envelope : RedEnvelope) : PromotionDb :=
  { s with envelopes := s.envelopes.insert envelope }

theorem apart_insert {P : RedEnvelope → RedEnvelope → Prop} {t : Table RedEnvelope}
    (hsymm : ∀ a b, P a b → P b a) (h : Apart P t) :
    Apart P (t.insert envelope) ↔ ∀ a ∈ t, ¬ P a (t.stored envelope) := by
  constructor
  · intro hall a ha hP
    have heq := hall a (Table.mem_insert.mpr (.inl ha)) _ (Table.mem_insert.mpr (.inr rfl)) hP
    exact absurd heq (ne_of_lt (Table.pk_lt_nextId ha))
  · intro hnew a ha b hb hP
    rcases Table.mem_insert.mp ha with ha | rfl
    · rcases Table.mem_insert.mp hb with hb | rfl
      · exact h a ha b hb hP
      · exact absurd hP (hnew a ha)
    · rcases Table.mem_insert.mp hb with hb | rfl
      · exact absurd (hsymm _ _ hP) (hnew b hb)
      · rfl

theorem known_eq_false {uniKey : String} :
    s.known uniKey = false ↔ ∀ envelope ∈ s.envelopes, envelope.uniKey ≠ uniKey := by
  unfold PromotionDb.known
  rw [Option.isSome_eq_false_iff, Option.isNone_iff_eq_none, Table.first_eq_none]
  simp only [decide_eq_false_iff_not, ne_eq]

theorem hasAll_addEnvelope (hclosed : envelope.opened = false) :
    HasAll (s.addEnvelope envelope) eventId customerId ↔ HasAll s eventId customerId := by
  unfold HasAll PromotionDb.addEnvelope
  refine forall₂_congr fun value _ => ⟨?_, ?_⟩
  · rintro ⟨row, hrow, hcard, hopened, hvalue⟩
    rcases Table.mem_insert.mp hrow with hrow | rfl
    · exact ⟨row, hrow, hcard, hopened, hvalue⟩
    · exact absurd hopened (ne_true_of_eq_false hclosed)
  · rintro ⟨row, hrow, hrest⟩
    exact ⟨row, Table.mem_insert.mpr (.inl hrow), hrest⟩

theorem Fair.addEnvelope (h : Fair s) (hkey : s.known envelope.uniKey = false)
    (hvalue : envelope.type = .card → envelope.value ∈ nine) (hclosed : envelope.opened = false) :
    Fair (s.addEnvelope envelope) ↔
      (envelope.type = .card → ¬ holds s envelope.customerId envelope.eventId envelope.value) := by
  have hcards : Apart SameCard (s.addEnvelope envelope).envelopes ↔
      (envelope.type = .card →
        ¬ holds s envelope.customerId envelope.eventId envelope.value) := by
    refine (apart_insert ?_ h.cards).trans ⟨?_, ?_⟩
    · rintro a b ⟨⟨hcustomer, hevent, htype⟩, htype', hsame⟩
      exact ⟨⟨hcustomer.symm, hevent.symm, htype'⟩, htype, hsame.symm⟩
    · rintro hnew htype ⟨row, hrow, hcard, hsame⟩
      exact hnew row hrow ⟨hcard, htype, hsame⟩
    · rintro hnew row hrow ⟨hcard, htype, hsame⟩
      exact hnew htype ⟨row, hrow, hcard, hsame⟩
  refine ⟨fun hfair => hcards.mp hfair.cards, fun hnew => ⟨?_, hcards.mpr hnew, ?_, ?_, ?_⟩⟩
  · refine (apart_insert (fun _ _ => Eq.symm) h.keys).mpr fun row hrow => ?_
    exact known_eq_false.mp hkey row hrow
  · intro row hrow htype
    rcases Table.mem_insert.mp hrow with hrow | rfl
    · exact h.values row hrow htype
    · exact hvalue htype
  · exact h.winnerKeys
  · intro eventId customerId
    rw [hasAll_addEnvelope hclosed]
    exact h.winners eventId customerId

theorem holds_addEnvelope {value : Nat} :
    holds (s.addEnvelope envelope) customerId eventId value ↔
      holds s customerId eventId value ∨
        (CardOf customerId eventId envelope ∧ envelope.value = value) := by
  unfold holds PromotionDb.addEnvelope
  constructor
  · rintro ⟨row, hrow, hcard, hvalue⟩
    rcases Table.mem_insert.mp hrow with hrow | rfl
    · exact .inl ⟨row, hrow, hcard, hvalue⟩
    · exact .inr ⟨hcard, hvalue⟩
  · rintro (⟨row, hrow, hrest⟩ | hnew)
    · exact ⟨row, Table.mem_insert.mpr (.inl hrow), hrest⟩
    · exact ⟨_, Table.mem_insert.mpr (.inr rfl), hnew⟩

theorem known_addEnvelope {uniKey : String} (h : envelope.uniKey ≠ uniKey) :
    (s.addEnvelope envelope).known uniKey = s.known uniKey := by
  rw [Bool.eq_iff_iff, ← not_iff_not, Bool.not_eq_true, Bool.not_eq_true, known_eq_false,
    known_eq_false]
  unfold PromotionDb.addEnvelope
  constructor
  · intro hall row hrow
    exact hall row (Table.mem_insert.mpr (.inl hrow))
  · intro hall row hrow
    rcases Table.mem_insert.mp hrow with hrow | rfl
    · exact hall row hrow
    · exact h

theorem uniKey1_ne_uniKey2 (application : XLSampleApply) :
    application.uniKey1 ≠ application.uniKey2 := by
  intro h
  have hself : application.uniKey2 = "self" ++ ("-" ++ application.uniKey1) := by
    unfold XLSampleApply.uniKey2
    rw [← String.append_assoc]
    rfl
  rw [hself] at h
  unfold XLSampleApply.uniKey1 at h
  have hfields := (field_inj "-" (c := '-') (by decide) (free_toString (by decide) _)
    (by decide)).mp h
  have hfree := free_toString (c := 's') (by decide) application.eventId
  rw [hfields.1] at hfree
  exact absurd hfree (by decide)

/-! ## An activation -/

def inviterEnvelope (application : XLSampleApply) (pair : EnvelopeType × Nat) : RedEnvelope :=
  ⟨0, application.fromCustomer, application.eventId, application.uniKey1, pair.1, pair.2, false⟩

def applicantEnvelope (application : XLSampleApply) : RedEnvelope :=
  ⟨0, application.customerId, application.eventId, application.uniKey2, .card, 1, false⟩

theorem giveInviter_run (h : Fair s) (draw : Draw) (application : XLSampleApply) :
    ((application.fromCustomer = 0 ∨ s.known application.uniKey1 = true) ∧
      (giveInviter draw application).run s = (.ok (), s)) ∨
    (application.fromCustomer ≠ 0 ∧ s.known application.uniKey1 = false ∧
      ∃ pair, Drawn s draw application.fromCustomer application.eventId pair ∧
        (giveInviter draw application).run s =
          (.ok (), s.addEnvelope (inviterEnvelope application pair))) := by
  unfold giveInviter
  rw [gets_bind_run]
  by_cases hgiven : application.fromCustomer = 0 ∨ s.known application.uniKey1 = true
  · rw [if_pos hgiven]
    exact .inl ⟨hgiven, rfl⟩
  · rw [if_neg hgiven]
    obtain ⟨hfrom, hkey⟩ := not_or.mp hgiven
    obtain ⟨pair, hrun, hdrawn⟩ := genEnvelopeTypeValuePair_run h draw application.fromCustomer
      application.eventId
    exact .inr ⟨hfrom, Bool.of_not_eq_true hkey, pair, hdrawn, bind_ok hrun⟩

theorem giveApplicant_run (s : PromotionDb) (application : XLSampleApply) :
    (giveApplicant application).run s = (.ok (),
      if s.known application.uniKey2 = true then s
      else s.addEnvelope (applicantEnvelope application)) := by
  unfold giveApplicant
  rw [gets_bind_run]
  split
  · rfl
  · rfl

theorem rows_addEnvelope (s : PromotionDb) (envelope : RedEnvelope) :
    (s.addEnvelope envelope).envelopes.rows =
      s.envelopes.rows ++ [s.envelopes.stored envelope] := rfl

structure Invited (s : PromotionDb) (draw : Draw) (application : XLSampleApply)
    (s' : PromotionDb) : Prop where
  fair : Fair s'
  key : s'.known application.uniKey2 = s.known application.uniKey2
  one : holds s' application.customerId application.eventId 1 ↔
    holds s application.customerId application.eventId 1 ∨ InvitesHerself s application draw
  rows : ∃ invited : List RedEnvelope, s'.envelopes.rows = s.envelopes.rows ++ invited ∧
    invited.length ≤ 1 ∧ ∀ envelope ∈ invited, envelope.customerId = application.fromCustomer

theorem giveInviter_invited (h : Fair s) (draw : Draw) (application : XLSampleApply) :
    ∃ s', (giveInviter draw application).run s = (.ok (), s') ∧
      Invited s draw application s' := by
  rcases giveInviter_run h draw application with ⟨hgiven, hrun⟩ |
    ⟨hfrom, hkey, pair, hdrawn, hrun⟩
  · refine ⟨s, hrun, h, rfl, ?_, [], (List.append_nil _).symm, Nat.zero_le 1,
      fun _ hmem => (nomatch hmem)⟩
    refine (or_iff_left ?_).symm
    rintro ⟨-, hfrom, hkey, -⟩
    rcases hgiven with hzero | hknown
    · exact hfrom hzero
    · exact Bool.false_ne_true (hkey.symm.trans hknown)
  · refine ⟨_, hrun, ?_, known_addEnvelope (uniKey1_ne_uniKey2 application), ?_,
      [_], rows_addEnvelope s _, le_rfl, ?_⟩
    · refine (h.addEnvelope hkey (fun htype => (hdrawn.card htype).1) rfl).mpr fun htype => ?_
      exact (hdrawn.card htype).2
    · rw [holds_addEnvelope]
      by_cases hone : holds s application.customerId application.eventId 1
      · exact iff_of_true (.inl hone) (.inl hone)
      · rw [or_iff_right hone, or_iff_right hone]
        constructor
        · rintro ⟨⟨hself, -, htype⟩, hvalue⟩
          have hsame : application.fromCustomer = application.customerId := hself
          rw [← hsame] at hone
          obtain ⟨hcash, hplace⟩ := (hdrawn.first hone).mp ⟨htype, hvalue⟩
          rw [hsame] at hplace
          exact ⟨hself, hfrom, hkey, hcash, hplace⟩
        · rintro ⟨hself, -, -, hcash, hplace⟩
          rw [← hself] at hone hplace
          obtain ⟨htype, hvalue⟩ := (hdrawn.first hone).mpr ⟨hcash, hplace⟩
          exact ⟨⟨hself, rfl, htype⟩, hvalue⟩
    · intro row hrow
      rw [List.mem_singleton.mp hrow]
      rfl

theorem good_activate_iff (h : Fair s) (application : XLSampleApply) (draw : Draw) :
    Good s (.activate application draw) ↔ Fits s (.activate application draw) := by
  generalize hsaved : ({ s with applications := s.applications ++ [application] } :
    PromotionDb) = saved
  have henvelopes : saved.envelopes = s.envelopes := by rw [← hsaved]
  have hfair : Fair saved := by
    rw [← hsaved]
    exact ⟨h.keys, h.cards, h.values, h.winnerKeys, h.winners⟩
  have hcall : (PromotionOp.activate application draw).call.run s =
      (generateRedEnvelope draw application).run saved := by rw [← hsaved]; rfl
  have hgood : Good s (.activate application draw) ↔
      Fair ((generateRedEnvelope draw application).run saved).2 ∧
        ((generateRedEnvelope draw application).run saved).1 = .ok () ∧
        AtMostOne application s ((generateRedEnvelope draw application).run saved).2 := by
    rw [← hcall]
    constructor
    · intro hgood
      exact ⟨hgood.fair, hgood.quiet application draw rfl⟩
    · rintro ⟨hfair, hquiet⟩
      refine ⟨hfair, fun application' draw' heq => ?_⟩
      obtain ⟨rfl, rfl⟩ := PromotionOp.activate.inj heq
      exact hquiet
  have hfits : Fits s (.activate application draw) ↔
      (application.activated = false ∨ saved.known application.uniKey2 = true ∨
        (¬ holds saved application.customerId application.eventId 1 ∧
          ¬ InvitesHerself saved application draw)) := by rw [← hsaved]; rfl
  rw [hgood, hfits]
  unfold generateRedEnvelope
  by_cases hactivated : application.activated = false
  · rw [if_pos hactivated]
    refine iff_of_true ⟨hfair, rfl, [], [], ?_, Nat.zero_le 1, fun _ hmem => (nomatch hmem),
      Nat.zero_le 1, fun _ hmem => (nomatch hmem)⟩ (.inl hactivated)
    rw [List.append_nil, List.append_nil]
    exact congrArg Table.rows henvelopes
  · rw [if_neg hactivated, or_iff_right hactivated]
    obtain ⟨mid, hrun, hinvited⟩ := giveInviter_invited hfair draw application
    rw [bind_ok hrun, giveApplicant_run, hinvited.key]
    obtain ⟨invited, hrows, hlength, hinviter⟩ := hinvited.rows
    rw [henvelopes] at hrows
    by_cases hknown : saved.known application.uniKey2 = true
    · rw [if_pos hknown]
      refine iff_of_true ⟨hinvited.fair, rfl, invited, [], ?_, hlength, hinviter, Nat.zero_le 1,
        fun _ hmem => (nomatch hmem)⟩ (.inl hknown)
      rw [List.append_nil]
      exact hrows
    · rw [if_neg hknown, or_iff_right hknown, ← not_or, ← hinvited.one]
      have hmid : mid.known application.uniKey2 = false := by
        rw [hinvited.key]
        exact Bool.of_not_eq_true hknown
      have hadded : Fair (mid.addEnvelope (applicantEnvelope application)) ↔
          (EnvelopeType.card = .card →
            ¬ holds mid application.customerId application.eventId 1) :=
        hinvited.fair.addEnvelope hmid (fun _ => show 1 ∈ nine by decide) rfl
      refine ⟨fun hgood => hadded.mp hgood.1 rfl, fun hone => ⟨hadded.mpr fun _ => hone, rfl,
        invited, [mid.envelopes.stored (applicantEnvelope application)], ?_, hlength, hinviter,
        le_rfl, ?_⟩⟩
      · rw [← hrows]
        exact rows_addEnvelope mid _
      · intro row hrow
        rw [List.mem_singleton.mp hrow]
        rfl

theorem mem_openedIn :
    envelope ∈ openedIn s customerId eventId ↔
      envelope ∈ s.envelopes ∧ CardOf customerId eventId envelope ∧ envelope.opened = true := by
  unfold openedIn Table.filter
  rw [List.mem_filter, decide_eq_true_eq]
  rfl

theorem hasAll_iff (hcards : Apart SameCard s.envelopes)
    (hvalues : ∀ envelope ∈ s.envelopes, envelope.type = .card → envelope.value ∈ nine) :
    HasAll s eventId customerId ↔ 9 ≤ (openedIn s customerId eventId).length := by
  have hnodup : ((openedIn s customerId eventId).map RedEnvelope.value).Nodup :=
    nodup_values hcards (s.envelopes.nodup_pk_filter _) fun envelope hmem =>
      ⟨(mem_openedIn.mp hmem).1, (mem_openedIn.mp hmem).2.1⟩
  have hsub : (openedIn s customerId eventId).map RedEnvelope.value ⊆ nine := by
    intro value hvalue
    obtain ⟨envelope, henvelope, rfl⟩ := List.mem_map.mp hvalue
    obtain ⟨hmem, hcard, -⟩ := mem_openedIn.mp henvelope
    exact hvalues envelope hmem hcard.2.2
  have hall : HasAll s eventId customerId ↔
      nine ⊆ (openedIn s customerId eventId).map RedEnvelope.value := by
    refine forall₂_congr fun value _ => ?_
    rw [List.mem_map]
    constructor
    · rintro ⟨envelope, hmem, hcard, hopened, hvalue⟩
      exact ⟨envelope, mem_openedIn.mpr ⟨hmem, hcard, hopened⟩, hvalue⟩
    · rintro ⟨envelope, hmem, hvalue⟩
      obtain ⟨hrow, hcard, hopened⟩ := mem_openedIn.mp hmem
      exact ⟨envelope, hrow, hcard, hopened, hvalue⟩
  rw [hall, ← List.length_map (f := RedEnvelope.value)]
  constructor
  · intro hnine
    exact (List.Nodup.subperm (by decide) hnine).length_le
  · intro hlength
    have hperm := (hnodup.subperm hsub).perm_of_length_le hlength
    exact hperm.symm.subset

def PromotionDb.setOpened (s : PromotionDb) (envelope : RedEnvelope) : PromotionDb :=
  { s with envelopes := s.envelopes.save { envelope with opened := true } }

theorem mem_setOpened {row : RedEnvelope} (hmem : envelope ∈ s.envelopes)
    (hrow : row ∈ (s.setOpened envelope).envelopes) :
    ∃ row' ∈ s.envelopes, row = { row' with opened := row.opened } := by
  rcases (Table.mem_save_iff hmem (by rfl)).mp hrow with rfl | ⟨hrow, -⟩
  · exact ⟨envelope, hmem, rfl⟩
  · exact ⟨row, hrow, rfl⟩

theorem apart_setOpened {P : RedEnvelope → RedEnvelope → Prop} (hmem : envelope ∈ s.envelopes)
    (hdata : ∀ a b o o', P { a with opened := o } { b with opened := o'} → P a b)
    (h : Apart P s.envelopes) : Apart P (s.setOpened envelope).envelopes := by
  intro a ha b hb hP
  obtain ⟨a', ha', heq⟩ := mem_setOpened hmem ha
  obtain ⟨b', hb', heq'⟩ := mem_setOpened hmem hb
  rw [heq, heq'] at hP
  rw [heq, heq']
  exact h a' ha' b' hb' (hdata _ _ _ _ hP)

theorem length_setOpened (hmem : envelope ∈ s.envelopes) (hclosed : envelope.opened = false)
    {p : RedEnvelope → Prop} [DecidablePred p]
    (hdata : p { envelope with opened := true } ↔ p envelope) :
    ((s.setOpened envelope).envelopes.filter fun row => p row ∧ row.opened = true).length =
      (s.envelopes.filter fun row => p row ∧ row.opened = true).length +
        if p envelope then 1 else 0 := by
  have hcount := Table.length_filter_save (a := { envelope with opened := true }) hmem rfl
    fun row => p row ∧ row.opened = true
  have hbefore : ¬ (p envelope ∧ envelope.opened = true) := fun h =>
    Bool.false_ne_true (hclosed.symm.trans h.2)
  rw [if_neg (by simpa using hbefore)] at hcount
  simp only [hdata, and_true, decide_eq_true_eq, sub_zero] at hcount
  change ((s.envelopes.save { envelope with opened := true }).filter _).length = _
  by_cases h : p envelope
  · rw [if_pos h] at hcount ⊢
    omega
  · rw [if_neg h] at hcount ⊢
    omega

/-! ## Opening an envelope -/

theorem fair_iff_winners (h : Fair s) (hmem : envelope ∈ s.envelopes)
    (henvelopes : s'.envelopes = (s.setOpened envelope).envelopes)
    (hkeys : ∀ winner ∈ s'.winners,
      winner.uniKey = winnerKey winner.eventId winner.customerId) :
    Fair s' ↔ ∀ eventId customerId,
      Wins s' eventId customerId ↔ HasAll (s.setOpened envelope) eventId customerId := by
  have hall : ∀ eventId customerId, HasAll s' eventId customerId ↔
      HasAll (s.setOpened envelope) eventId customerId := by
    intro eventId customerId
    unfold HasAll
    rw [henvelopes]
  refine ⟨fun hfair eventId customerId => (hfair.winners eventId customerId).trans (hall _ _),
    fun hwinners => ⟨?_, ?_, ?_, hkeys, fun eventId customerId =>
      (hwinners eventId customerId).trans (hall _ _).symm⟩⟩
  · rw [henvelopes]
    exact apart_setOpened hmem (fun _ _ _ _ hP => hP) h.keys
  · rw [henvelopes]
    exact apart_setOpened hmem (fun _ _ _ _ hP => hP) h.cards
  · rw [henvelopes]
    intro row hrow htype
    obtain ⟨row', hrow', heq⟩ := mem_setOpened hmem hrow
    rw [heq] at htype ⊢
    exact h.values row' hrow' htype

theorem hasAll_setOpened (h : Fair s) (hmem : envelope ∈ s.envelopes)
    (hclosed : envelope.opened = false) :
    HasAll (s.setOpened envelope) eventId customerId ↔
      9 ≤ (openedIn s customerId eventId).length +
        if CardOf customerId eventId envelope then 1 else 0 := by
  have hlength := length_setOpened hmem hclosed (p := CardOf customerId eventId) Iff.rfl
  rw [hasAll_iff (apart_setOpened hmem (fun _ _ _ _ hP => hP) h.cards) ?_]
  · exact iff_of_eq (congrArg (9 ≤ ·) hlength)
  · intro row hrow htype
    obtain ⟨row', hrow', heq⟩ := mem_setOpened hmem hrow
    rw [heq] at htype ⊢
    exact h.values row' hrow' htype

theorem hasAll_setOpened_of_not (h : Fair s) (hmem : envelope ∈ s.envelopes)
    (hclosed : envelope.opened = false) (hcard : ¬ CardOf customerId eventId envelope) :
    HasAll (s.setOpened envelope) eventId customerId ↔ HasAll s eventId customerId := by
  rw [hasAll_setOpened h hmem hclosed, if_neg hcard, add_zero, hasAll_iff h.cards h.values]

theorem cardNum_setOpened (hmem : envelope ∈ s.envelopes) (hclosed : envelope.opened = false)
    (htype : envelope.type = .card) :
    (s.setOpened envelope).cardNum envelope.customerId = s.cardNum envelope.customerId + 1 := by
  have hlength := length_setOpened hmem hclosed
    (p := fun row => row.customerId = envelope.customerId ∧ row.type = .card) Iff.rfl
  rw [if_pos ⟨rfl, htype⟩] at hlength
  unfold PromotionDb.cardNum
  simp only [and_assoc] at hlength
  exact hlength

theorem winnerKey_inj {eventId' customerId' : Nat} :
    winnerKey eventId customerId = winnerKey eventId' customerId' ↔
      eventId = eventId' ∧ customerId = customerId' := by
  unfold winnerKey
  rw [field_inj "-" (c := '-') (by decide) (free_toString (by decide) _)
    (free_toString (by decide) _), toString_inj, toString_inj]

theorem any_winnerKey (h : Fair s) :
    (s.winners.any fun winner => winner.uniKey = winnerKey eventId customerId) = true ↔
      Wins s eventId customerId := by
  rw [List.any_eq_true]
  refine exists_congr fun winner => and_congr_right fun hwinner => ?_
  rw [decide_eq_true_eq, h.winnerKeys winner hwinner, winnerKey_inj]

theorem not_wins (h : Fair s) (hmem : envelope ∈ s.envelopes)
    (hclosed : envelope.opened = false) (htype : envelope.type = .card) :
    ¬ Wins s envelope.eventId envelope.customerId := by
  rw [h.winners]
  intro hall
  obtain ⟨row, hrow, hcard, hopened, hvalue⟩ :=
    hall envelope.value (h.values envelope hmem htype)
  have hid := h.cards row hrow envelope hmem ⟨hcard, htype, hvalue⟩
  rw [Table.pk_inj hrow hmem hid, hclosed] at hopened
  cases hopened

theorem decideAwardWinner_snd (h : Fair s) (hmem : envelope ∈ s.envelopes)
    (hclosed : envelope.opened = false) (htype : envelope.type = .card) :
    ((decideAwardWinner { envelope with opened := true }).run (s.setOpened envelope)).2 =
      if 9 ≤ s.cardNum envelope.customerId + 1 ∧ s.customers envelope.customerId = true then
        { s.setOpened envelope with winners := s.winners ++ [⟨envelope.customerId,
          envelope.eventId, winnerKey envelope.eventId envelope.customerId,
          s.inviteNum envelope.customerId envelope.eventId⟩] }
      else s.setOpened envelope := by
  have hwon : (s.winners.any fun winner =>
      winner.uniKey = winnerKey envelope.eventId envelope.customerId) = false :=
    Bool.of_not_eq_true fun hany => not_wins h hmem hclosed htype ((any_winnerKey h).mp hany)
  unfold decideAwardWinner
  rw [gets_bind_run, gets_bind_run]
  change ((if (s.setOpened envelope).cardNum envelope.customerId < 9 ∨
    (s.winners.any fun winner =>
      winner.uniKey = winnerKey envelope.eventId envelope.customerId) = true then _ else _ :
      PromotionTx Unit).run (s.setOpened envelope)).2 = _
  rw [cardNum_setOpened hmem hclosed htype, hwon]
  by_cases hnine : 9 ≤ s.cardNum envelope.customerId + 1
  · rw [if_neg (by simpa using hnine), gets_bind_run, getOr_bind_run]
    by_cases hcustomer : s.customers envelope.customerId = true
    · have hrow : (if (s.setOpened envelope).customers envelope.customerId = true then some ()
          else none) = some () := if_pos hcustomer
      simp only [hrow]
      rw [if_pos ⟨hnine, hcustomer⟩]
      rfl
    · have hrow : (if (s.setOpened envelope).customers envelope.customerId = true then some ()
          else none) = none := if_neg hcustomer
      simp only [hrow]
      rw [if_neg fun hboth => hcustomer hboth.2]
  · rw [if_pos (.inl (not_le.mp hnine)), if_neg fun hboth => hnine hboth.1]
    rfl

theorem fair_opened_card_iff (h : Fair s) (hmem : envelope ∈ s.envelopes)
    (hclosed : envelope.opened = false) (htype : envelope.type = .card) :
    Fair ((decideAwardWinner { envelope with opened := true }).run (s.setOpened envelope)).2 ↔
      ((9 ≤ s.cardNum envelope.customerId + 1 ∧ s.customers envelope.customerId = true) ↔
        9 ≤ (openedIn s envelope.customerId envelope.eventId).length + 1) := by
  have hlost := not_wins h hmem hclosed htype
  have hown : HasAll (s.setOpened envelope) envelope.eventId envelope.customerId ↔
      9 ≤ (openedIn s envelope.customerId envelope.eventId).length + 1 := by
    rw [hasAll_setOpened h hmem hclosed, if_pos ⟨rfl, rfl, htype⟩]
  have hothers : ∀ eventId customerId,
      ¬ (eventId = envelope.eventId ∧ customerId = envelope.customerId) →
      (HasAll (s.setOpened envelope) eventId customerId ↔ Wins s eventId customerId) := by
    intro eventId customerId hne
    rw [hasAll_setOpened_of_not h hmem hclosed fun hcard => hne ⟨hcard.2.1.symm, hcard.1.symm⟩]
    exact (h.winners eventId customerId).symm
  rw [decideAwardWinner_snd h hmem hclosed htype, ← hown]
  by_cases hnine : 9 ≤ s.cardNum envelope.customerId + 1 ∧ s.customers envelope.customerId = true
  · rw [if_pos hnine, iff_true_left hnine, fair_iff_winners h hmem (by rfl) ?_]
    · have hwins : ∀ eventId customerId,
          Wins { s.setOpened envelope with winners := s.winners ++ [⟨envelope.customerId,
            envelope.eventId, winnerKey envelope.eventId envelope.customerId,
            s.inviteNum envelope.customerId envelope.eventId⟩] } eventId customerId ↔
          Wins s eventId customerId ∨
            (eventId = envelope.eventId ∧ customerId = envelope.customerId) := by
        intro eventId customerId
        unfold Wins
        dsimp only
        simp only [List.mem_append, List.mem_singleton, or_and_right, exists_or,
          exists_eq_left, eq_comm]
      constructor
      · intro hall
        exact (hall envelope.eventId envelope.customerId).mp ((hwins _ _).mpr (.inr ⟨rfl, rfl⟩))
      · intro hhas eventId customerId
        rw [hwins]
        by_cases heq : eventId = envelope.eventId ∧ customerId = envelope.customerId
        · rw [heq.1, heq.2]
          exact iff_of_true (.inr ⟨rfl, rfl⟩) hhas
        · rw [hothers _ _ heq]
          exact or_iff_left heq
    · intro winner hwinner
      rcases List.mem_append.mp hwinner with hwinner | hwinner
      · exact h.winnerKeys winner hwinner
      · rw [List.mem_singleton.mp hwinner]
  · rw [if_neg hnine, iff_false_left hnine, fair_iff_winners h hmem rfl h.winnerKeys]
    constructor
    · intro hall hhas
      exact hlost ((hall envelope.eventId envelope.customerId).mpr hhas)
    · intro hnot eventId customerId
      by_cases heq : eventId = envelope.eventId ∧ customerId = envelope.customerId
      · rw [heq.1, heq.2]
        exact iff_of_false hlost hnot
      · exact (hothers _ _ heq).symm

theorem fair_opened_cash (h : Fair s) (hmem : envelope ∈ s.envelopes)
    (hclosed : envelope.opened = false) (htype : envelope.type ≠ .card) :
    Fair (s.setOpened envelope) := by
  refine (fair_iff_winners h hmem rfl h.winnerKeys).mpr fun eventId customerId => ?_
  rw [hasAll_setOpened_of_not h hmem hclosed fun hcard => htype hcard.2.2]
  exact h.winners eventId customerId

theorem good_open_iff (h : Fair s) (envelopeId : Nat) :
    Good s (.openEnvelope envelopeId) ↔ Fits s (.openEnvelope envelopeId) := by
  have hgood : Good s (.openEnvelope envelopeId) ↔
      Fair ((openEnvelope envelopeId).run s).2 :=
    ⟨fun hgood => hgood.fair, fun hfair => ⟨hfair, fun _ _ heq => (nomatch heq)⟩⟩
  rw [hgood]
  unfold openEnvelope Fits
  rw [getOr_bind_run]
  cases henvelope : s.envelopes.get? envelopeId with
  | none => exact iff_of_true h fun row hrow => (nomatch henvelope.symm.trans hrow)
  | some envelope =>
    have hmem := Table.mem_of_first henvelope
    dsimp only
    by_cases hopened : envelope.opened = true
    · rw [if_pos hopened]
      refine iff_of_true h fun row hrow hclosed => ?_
      obtain rfl := Option.some.inj (henvelope.symm.trans hrow)
      exact absurd hclosed (ne_false_of_eq_true hopened)
    · rw [if_neg hopened, modify_bind_run]
      have hclosed := Bool.of_not_eq_true hopened
      by_cases htype : envelope.type = .card
      · rw [if_pos htype]
        refine (fair_opened_card_iff h hmem hclosed htype).trans ⟨?_, ?_⟩
        · intro hiff row hrow _ _
          obtain rfl := Option.some.inj (henvelope.symm.trans hrow)
          exact hiff
        · intro hfits
          exact hfits envelope henvelope hclosed htype
      · rw [if_neg htype]
        refine iff_of_true (fair_opened_cash h hmem hclosed htype) fun row hrow _ hcard => ?_
        obtain rfl := Option.some.inj (henvelope.symm.trans hrow)
        exact absurd hcard htype

theorem good_iff_fits (s : PromotionDb) (op : PromotionOp) (h : Fair s) :
    Good s op ↔ Fits s op := by
  cases op with
  | activate application draw => exact good_activate_iff h application draw
  | openEnvelope envelopeId => exact good_open_iff h envelopeId

/-- The activity is fair in a run exactly when nobody is given her first card twice and nobody
opens a ninth card that is not the ninth of its event. -/
theorem activity_iff {s : PromotionDb} (hs : Fair s) (ops : List PromotionOp) :
    Guarded PromotionOp.exec Good ops s ↔ Guarded PromotionOp.exec Fits ops s :=
  guarded_iff_guarded (fun s op h => good_iff_fits s op h)
    (fun s op h hfits => ((good_iff_fits s op h).mpr hfits).fair) ops s hs

def noEnvelopes : PromotionDb where
  customers := fun _ => true
  applications := []
  envelopes := Table.empty
  winners := []

theorem fair_noEnvelopes : Fair noEnvelopes where
  keys _ h := nomatch h
  cards _ h := nomatch h
  values _ h := nomatch h
  winnerKeys _ h := nomatch h
  winners eventId customerId := by
    refine iff_of_false (fun ⟨_, h, _⟩ => nomatch h) fun hall => ?_
    obtain ⟨_, h, _⟩ := hall 1 (by decide)
    exact nomatch h

theorem activity_sample :
    Guarded PromotionOp.exec Good
      [.activate ⟨3, 1, 0, true⟩ ⟨false, 0, 0⟩, .activate ⟨3, 2, 1, true⟩ ⟨false, 0, 0⟩,
        .openEnvelope 1, .openEnvelope 2] noEnvelopes :=
  (activity_iff fair_noEnvelopes _).mpr (by decide +kernel)

theorem activity_fails : ¬ Guarded PromotionOp.exec Good
    [.activate ⟨3, 2, 1, true⟩ ⟨false, 0, 0⟩, .activate ⟨3, 1, 0, true⟩ ⟨false, 0, 0⟩]
      noEnvelopes := by
  rintro ⟨hfirst, hsecond, -⟩
  have hfits := (good_iff_fits _ _ hfirst.fair).mp hsecond
  revert hfits
  decide +kernel

end ShopManager.Promotion
