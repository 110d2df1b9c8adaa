import FleetWarden.Proofs.CommandLine.Reaching
import FleetWarden.Proofs.Manager.Deletion
import FleetWarden.Proofs.Membership.Questions

/-!
# What a deletion says and what it does

The command that deletes instances asks about, and reports, as many instances as it has arguments.
The manager deletes an instance once, however often it is named. `counts_of_delete` says that the
two numbers agree exactly if no two arguments name one instance, and that nothing is asked of the
remote side if an argument is blank or the question is answered with no.
-/

namespace FleetWarden

/-- An exchange that changes nothing on the remote side. -/
inductive Exchange.IsReading : Exchange → Prop
  | described (name : String) (answer : Except Fault String) : IsReading (.described name answer)
  | listed (name : String) (answer : Except Fault (List Member)) : IsReading (.listed name answer)

/-- The set and the instance ids of a deletion. -/
def Exchange.deletion? : Exchange → Option (String × List String)
  | deleted name ids _ => some (name, ids)
  | _ => none

section Readings
variable {ρ : Type} {client : Client ρ} {start : List Exchange}

/-- Since a transcript, nothing but readings was added to it. -/
def OnlyRead (start : List Exchange) (s : System (Transcribed ρ)) : Prop :=
  ∃ readings : List Exchange, (∀ x ∈ readings, x.IsReading) ∧
    s.world.remote.transcript = start ++ readings

theorem OnlyRead.refl (s : System (Transcribed ρ)) : OnlyRead s.world.remote.transcript s :=
  ⟨[], List.forall_mem_nil _, (List.append_nil _).symm⟩

theorem OnlyRead.append {s t : System (Transcribed ρ)} {readings : List Exchange}
    (h : OnlyRead start s) (hreadings : ∀ x ∈ readings, x.IsReading)
    (ht : t.world.remote.transcript = s.world.remote.transcript ++ readings) :
    OnlyRead start t := by
  obtain ⟨earlier, hearlier, hs⟩ := h
  refine ⟨earlier ++ readings, List.forall_mem_append.2 ⟨hearlier, hreadings⟩, ?_⟩
  rw [ht, hs, List.append_assoc]

theorem Visit.isReading_of_mem {v : Visit} {x : Exchange} (h : x ∈ v.exchanges) :
    x.IsReading := by
  rw [exchanges, List.mem_cons, List.mem_singleton] at h
  obtain rfl | rfl := h
  · exact .described _ _
  · exact .listed _ _

theorem Rebuild.Cut.isReading_of_mem {fleet : Fleet} {told : List Exchange} {e : Fault}
    (h : Rebuild.Cut fleet told e) {x : Exchange} (hx : x ∈ told) : x.IsReading := by
  cases h with
  | describe e =>
      obtain rfl := List.mem_singleton.1 hx
      exact .described _ _
  | list name e =>
      rw [List.mem_cons, List.mem_singleton] at hx
      obtain rfl | rfl := hx
      · exact .described _ _
      · exact .listed _ _
  | member name blank =>
      rw [List.mem_cons, List.mem_singleton] at hx
      obtain rfl | rfl := hx
      · exact .described _ _
      · exact .listed _ _

namespace Manager

/-- A rebuild only reads. -/
theorem onlyRead_rebuild (client : Client ρ) :
    Action.Keeps (OnlyRead start) (rebuild client.transcribed) := by
  intro s h
  rcases hrun : rebuild client.transcribed s with ⟨e | _, t⟩
  · obtain ⟨w, hhalt, rfl⟩ := rebuild_eq_error_iff.1 hrun
    obtain ⟨visits, fleet, rest, told, -, -, hcut, htold⟩ := hhalt.transcript
    refine h.append ?_ htold
    intro x hx
    obtain hvisits | htold := List.mem_append.1 hx
    · obtain ⟨v, -, hv⟩ := List.mem_flatMap.1 hvisits
      exact Visit.isReading_of_mem hv
    · exact hcut.isReading_of_mem htold
  · obtain ⟨visits, w, hsurvey, -, rfl⟩ := rebuild_eq_ok_iff.1 hrun
    refine h.append ?_ hsurvey.transcript
    intro x hx
    obtain ⟨v, -, hv⟩ := List.mem_flatMap.1 hx
    exact Visit.isReading_of_mem hv

theorem onlyRead_resolveDeletion (client : Client ρ) (targets : List InstanceRef) :
    Action.Keeps (OnlyRead start) (resolveDeletion client.transcribed targets) := by
  unfold resolveDeletion
  cases distinct targets with
  | nil => exact Action.keeps_pure _
  | cons first others =>
      refine Action.Keeps.bind ?_ fun _ =>
        (Action.keeps_ofExcept _).bind fun _ => Action.keeps_pure _
      refine (Action.keeps_look _).bind fun current => ?_
      split
      · exact Action.keeps_pure _
      · exact (onlyRead_rebuild client).bind fun _ => Action.keeps_look _

/-- A deletion that succeeds makes one call, with one id for each of the different targets. -/
theorem transcript_of_deleteInstances {targets : List InstanceRef} {s t : System (Transcribed ρ)}
    (hne : targets ≠ []) (h : deleteInstances client.transcribed targets s = (.ok (), t)) :
    ∃ (readings : List Exchange) (name : String) (ids : List String),
      (∀ x ∈ readings, x.IsReading) ∧
      t.world.remote.transcript =
        s.world.remote.transcript ++ readings ++ [.deleted name ids (.ok ())] ∧
      ids.length = targets.eraseDups.length := by
  rw [deleteInstances_eq] at h
  obtain ⟨plan?, s₁, hresolve, h⟩ := Action.bind_eq_ok_iff.1 h
  cases plan? with
  | none => exact absurd (eq_nil_of_resolveDeletion hresolve) hne
  | some plan =>
      obtain ⟨fleet, ids⟩ := plan
      obtain ⟨readings, hreadings, hs₁⟩ : OnlyRead s.world.remote.transcript s₁ :=
        (onlyRead_resolveDeletion client targets).of_eq (.refl s) hresolve
      have hlength : ids.length = targets.eraseDups.length := by
        have hids := congrArg List.length (of_resolveDeletion hresolve).2
        rw [List.length_map, List.length_map] at hids
        exact hids.symm
      refine ⟨readings, fleet.name, ids, hreadings, ?_, hlength⟩
      obtain ⟨_, s₂, hreport, hdelete⟩ := Action.bind_eq_ok_iff.1 h
      obtain ⟨w, hcall, rfl⟩ := Effect.lift_eq_iff.1 hdelete
      cases hreport
      rw [Client.transcript_of_delete hcall, ← hs₁]
      rfl

end Manager
end Readings

namespace CommandLine

open Text

variable {ρ : Type}

namespace Desk

/-- The question before a deletion. -/
def deleteQuestion (n : Nat) : String := "Delete " ++ instanceCount n ++ "?"

/-- The report of a deletion. -/
def deletedText (n : Nat) : String := coloured "green" ("Deleted " ++ instanceCount n)

/-- The terminal behind the question, if there is one. -/
def afterQuestion (n : Nat) (confirmed : Bool) (terminal : Terminal) : Terminal :=
  if confirmed then terminal else (terminal.confirm (deleteQuestion n)).2

/-- Whether a deletion is to go on: it was confirmed beforehand, or the answer is yes. -/
def GoesOn (n : Nat) (confirmed : Bool) (terminal : Terminal) : Prop :=
  confirmed = true ∨ (terminal.confirm (deleteQuestion n)).1 = some true

section
variable {client : Client ρ} {raws : List String} {refs : List InstanceRef} {confirmed : Bool}
  {d : Desk ρ}

theorem length_of_refs (hrefs : raws.mapM InstanceRef.ofRaw? = some refs) :
    refs.length = raws.length := by
  have hlengths := congrArg List.length (mapM_eq_some_iff.1 hrefs)
  rw [List.length_map, List.length_map] at hlengths
  exact hlengths.symm

theorem delete_of_blank (h : ∃ raw ∈ raws, blank raw = true) :
    delete client raws confirmed d =
      (.error (badValue instancesArgument.name deleteSpec .blankInstance), d) := by
  obtain ⟨raw, hmem, hblank⟩ := h
  have hnone := mapM_eq_none_iff.2 ⟨raw, hmem, InstanceRef.ofRaw?_eq_none_iff.2 hblank⟩
  rw [delete, hnone]
  rfl

theorem confirm_of_goesOn {n : Nat} (h : GoesOn n false d.terminal) :
    confirm (deleteQuestion n) d =
      (.ok (), { d with terminal := afterQuestion n false d.terminal }) := by
  have hyes : (d.terminal.confirm (deleteQuestion n)).1 = some true :=
    h.resolve_left Bool.false_ne_true
  rw [confirm]
  dsimp only
  rw [if_pos hyes]
  rfl

theorem delete_of_goesOn (hrefs : raws.mapM InstanceRef.ofRaw? = some refs)
    (h : GoesOn refs.length confirmed d.terminal) :
    delete client raws confirmed d = (do
      operate (.ofFault "Delete failed") (Manager.deleteInstances client refs)
      writeMarkup (deletedText refs.length))
        { d with terminal := afterQuestion refs.length confirmed d.terminal } := by
  rw [delete, hrefs]
  cases confirmed with
  | true => rfl
  | false => exact Action.bind_of_ok (confirm_of_goesOn h)

theorem delete_of_declined (hrefs : raws.mapM InstanceRef.ofRaw? = some refs)
    (h : ¬ GoesOn refs.length confirmed d.terminal) :
    delete client raws confirmed d =
      (.error .aborted, { d with terminal := afterQuestion refs.length confirmed d.terminal }) := by
  obtain rfl : confirmed = false := Bool.eq_false_iff.2 fun hconfirmed => h (.inl hconfirmed)
  have hno : ¬ (d.terminal.confirm (deleteQuestion refs.length)).1 = some true :=
    fun hyes => h (.inr hyes)
  have hconfirm : confirm (deleteQuestion refs.length) d =
      (.error .aborted, { d with terminal := afterQuestion refs.length false d.terminal }) := by
    rw [confirm]
    dsimp only
    rw [if_neg hno]
    rfl
  rw [delete, hrefs]
  exact Action.bind_of_error hconfirm

/-- A deletion that is declined, or has a blank argument, leaves the manager as it was. -/
theorem delete_stopped
    (h : ¬ GoesOn raws.length confirmed d.terminal ∨ ∃ raw ∈ raws, blank raw = true) :
    ∃ stop terminal, stop.exitCode ≠ 0 ∧
      delete client raws confirmed d = (.error stop, { d with terminal }) := by
  by_cases hblank : ∃ raw ∈ raws, blank raw = true
  · refine ⟨_, _, ?_, delete_of_blank hblank⟩
    exact Nat.succ_ne_zero 1
  · cases hrefs : raws.mapM InstanceRef.ofRaw? with
    | none =>
        obtain ⟨raw, hmem, hraw⟩ := mapM_eq_none_iff.1 hrefs
        exact absurd ⟨raw, hmem, InstanceRef.ofRaw?_eq_none_iff.1 hraw⟩ hblank
    | some refs =>
        have hdeclined := h.resolve_right hblank
        rw [← length_of_refs hrefs] at hdeclined
        refine ⟨_, _, ?_, delete_of_declined hrefs hdeclined⟩
        exact Nat.one_ne_zero

theorem exitCode_of_delete {stop : Stop} {d' : Desk ρ}
    (h : delete client raws confirmed d = (.error stop, d')) : stop.exitCode ≠ 0 := by
  cases hrefs : raws.mapM InstanceRef.ofRaw? with
  | none =>
      rw [delete, hrefs] at h
      cases h
      exact Nat.succ_ne_zero 1
  | some refs =>
      by_cases hgo : GoesOn refs.length confirmed d.terminal
      · rw [delete_of_goesOn hrefs hgo] at h
        rcases Action.bind_eq_error_iff.1 h with hoperate | ⟨_, d₁, -, hwrite⟩
        · rw [operate] at hoperate
          split at hoperate <;> cases hoperate
          rw [Stop.exitCode_ofFault]
          exact Nat.one_ne_zero
        · obtain ⟨cs, hcs⟩ := plain_deleted refs.length
          rw [deletedText, writeMarkup_of_ok hcs] at hwrite
          cases hwrite
      · rw [delete_of_declined hrefs hgo] at h
        cases h
        exact Nat.one_ne_zero

end

section
variable {client : Client ρ} {raws : List String} {confirmed : Bool}

/-- A deletion that is done was not declined, and it reports as many instances as there are
arguments. Its one call has an id for each of the different references. -/
theorem delete_done {d d' : Desk (Transcribed ρ)} (hgiven : raws ≠ [])
    (h : delete client.transcribed raws confirmed d = (.ok (), d')) :
    ∃ refs, raws.mapM InstanceRef.ofRaw? = some refs ∧ GoesOn raws.length confirmed d.terminal ∧
      (afterQuestion raws.length confirmed d.terminal).writeMarkup (deletedText raws.length) =
        .ok d'.terminal ∧
      ∃ (readings : List Exchange) (name : String) (ids : List String),
        (∀ x ∈ readings, x.IsReading) ∧
        d'.system.world.remote.transcript =
          d.system.world.remote.transcript ++ readings ++ [.deleted name ids (.ok ())] ∧
        ids.length = refs.eraseDups.length := by
  cases hrefs : raws.mapM InstanceRef.ofRaw? with
  | none =>
      rw [delete, hrefs] at h
      cases h
  | some refs =>
      have hlength := length_of_refs hrefs
      have hne : refs ≠ [] := by
        rintro rfl
        exact hgiven (List.length_eq_zero_iff.1 hlength.symm)
      by_cases hgo : GoesOn refs.length confirmed d.terminal
      · rw [delete_of_goesOn hrefs hgo, hlength] at h
        rw [hlength] at hgo
        let asked : Desk (Transcribed ρ) :=
          { d with terminal := afterQuestion raws.length confirmed d.terminal }
        rcases hrun : Manager.deleteInstances client.transcribed refs asked.system with ⟨f | _, t⟩
        · rw [Action.bind_of_error (operate_of_error hrun)] at h
          cases h
        · obtain ⟨cs, hcs⟩ := plain_deleted raws.length
          rw [Action.bind_of_ok (operate_of_ok hrun), deletedText, writeMarkup_of_ok hcs] at h
          cases h
          obtain ⟨readings, name, ids, hreadings, hcall, hids⟩ :=
            Manager.transcript_of_deleteInstances hne hrun
          refine ⟨refs, rfl, hgo, ?_, readings, name, ids, hreadings, hcall, hids⟩
          rw [Terminal.writeMarkup, deletedText, hcs]
          rfl
      · rw [delete_of_declined hrefs hgo] at h
        cases h

end
end Desk

/-- Two resource ids give one reference exactly if they have one key. -/
theorem nodup_iff_nodup_keys {raws : List String} {refs : List InstanceRef}
    (hrefs : raws.mapM InstanceRef.ofRaw? = some refs) :
    refs.Nodup ↔ (raws.map instanceKey?).Nodup := by
  have hkeys : raws.map instanceKey? = refs.map fun ref => some ref.key := by
    calc
      raws.map instanceKey? = (raws.map InstanceRef.ofRaw?).map fun ref? => ref?.map (·.key) := by
        rw [List.map_map]
        apply List.map_congr_left
        intro raw _
        rw [Function.comp_apply, InstanceRef.map_key_ofRaw?]
      _ = (refs.map some).map fun ref? => ref?.map (·.key) := by rw [mapM_eq_some_iff.1 hrefs]
      _ = refs.map fun ref => some ref.key := List.map_map
  have hinjective : Function.Injective fun ref : InstanceRef => some ref.key := by
    rintro ⟨key, _⟩ ⟨key', _⟩ h
    cases h
    rfl
  rw [hkeys, List.nodup_map_iff hinjective]

section Arguments
variable {raws : List String} {confirmed : Bool}

theorem ne_nil_of_command {p : Parsed} {v : Verb}
    (h : v.command p = .ok (.delete raws confirmed)) : raws ≠ [] := by
  cases v with
  | delete =>
      obtain ⟨ids, htake, hids⟩ := except_bind_eq_ok_iff.1 h
      cases hids
      rw [takeSome] at htake
      split at htake
      · cases htake
      · rename_i hsome
        cases htake
        exact fun hnone => hsome (List.isEmpty_iff.2 hnone)
  | watch =>
      rw [Verb.command] at h
      split at h <;> simp [except_bind_eq_ok_iff, except_map_eq_ok_iff, Functor.map] at h
  | _ => simp [Verb.command, except_bind_eq_ok_iff, except_map_eq_ok_iff, Functor.map] at h

end Arguments

open Shell

theorem ne_nil_of_calls {environment : List (String × String)} {disk : Disk} {args : List String}
    {p : Parsed} {raws : List String} {confirmed : Bool}
    (hcalls : Calls environment disk args p (.delete raws confirmed)) : raws ≠ [] := by
  obtain ⟨v, p', hcommand⟩ := hcalls.exists_command
  exact ne_nil_of_command hcommand

section Outcomes
variable {raws : List String} {confirmed : Bool}

theorem stopped_of_ofDesk {client : Client ρ} {watch : CommandSpec} {s : Shell ρ} {d : Desk ρ}
    {o : Outcome ρ} (ho : o = .ofDesk watch s (Desk.delete client raws confirmed d))
    (h : ¬ Desk.GoesOn raws.length confirmed d.terminal ∨ ∃ raw ∈ raws, blank raw = true) :
    o.exitCode ≠ 0 ∧ o.shell.world.remote = d.system.world.remote := by
  obtain ⟨stop, terminal, hcode, hrun⟩ := Desk.delete_stopped h
  rw [hrun, Outcome.ofDesk] at ho
  rw [ho, Outcome.exitCode_settle, Outcome.world_settle]
  exact ⟨hcode, rfl⟩

theorem done_of_ofDesk {plain : Client ρ} {watch : CommandSpec} {s : Shell (Transcribed ρ)}
    {d : Desk (Transcribed ρ)} {o : Outcome (Transcribed ρ)}
    (ho : o = .ofDesk watch s (Desk.delete plain.transcribed raws confirmed d)) (hgiven : raws ≠ [])
    (hzero : o.exitCode = 0) :
    Desk.GoesOn raws.length confirmed d.terminal ∧
      (Desk.afterQuestion raws.length confirmed d.terminal).writeMarkup
        (Desk.deletedText raws.length) = .ok o.shell.terminal ∧
      ∃ (refs : List InstanceRef) (readings : List Exchange) (name : String) (ids : List String),
        raws.mapM InstanceRef.ofRaw? = some refs ∧ (∀ x ∈ readings, x.IsReading) ∧
        o.shell.world.remote.transcript =
          d.system.world.remote.transcript ++ readings ++ [.deleted name ids (.ok ())] ∧
        ids.length = refs.eraseDups.length ∧
        (ids.length = raws.length ↔ (raws.map instanceKey?).Nodup) := by
  rcases hrun : Desk.delete plain.transcribed raws confirmed d with ⟨stop | _, d'⟩
  · rw [hrun, Outcome.ofDesk] at ho
    rw [ho, Outcome.exitCode_settle] at hzero
    exact absurd hzero (Desk.exitCode_of_delete hrun)
  · obtain ⟨refs, hrefs, hgo, hreport, readings, name, ids, hreadings, hcall, hids⟩ :=
      Desk.delete_done hgiven hrun
    rw [hrun] at ho
    subst ho
    refine ⟨hgo, hreport, refs, readings, name, ids, hrefs, hreadings, hcall, hids, ?_⟩
    rw [hids, ← Desk.length_of_refs hrefs, length_eraseDups_eq_iff, nodup_iff_nodup_keys hrefs]

end Outcomes

/-- A deletion that ends with exit code 0 asked about, and reported, as many instances as it has
arguments, and its one call has an id for each of the different references. So the numbers agree
exactly if no two arguments have one key. A deletion that is declined, or has a blank argument, asks
nothing of the remote side. -/
theorem counts_of_delete {around : Surroundings (Transcribed ρ)}
    (hserved : around.supply.ServedBy fun client => ∃ plain : Client ρ, client = plain.transcribed)
    (input : String) {disk : Disk} {args : List String} {p : Parsed} {raws : List String}
    {confirmed : Bool} (hcalls : Calls around.environment disk args p (.delete raws confirmed)) :
    let o := invoke around input disk args
    let terminal := Terminal.withInput input
    let before := around.supply.world.remote.transcript
    let after := o.shell.world.remote.transcript
    (o.exitCode = 0 → Desk.GoesOn raws.length confirmed terminal ∧
      (Desk.afterQuestion raws.length confirmed terminal).writeMarkup
        (Desk.deletedText raws.length) = .ok o.shell.terminal ∧
      ∃ (refs : List InstanceRef) (readings : List Exchange) (name : String) (ids : List String),
        raws.mapM InstanceRef.ofRaw? = some refs ∧ (∀ x ∈ readings, x.IsReading) ∧
        after = before ++ readings ++ [.deleted name ids (.ok ())] ∧
        ids.length = refs.eraseDups.length ∧
        (ids.length = raws.length ↔ (raws.map instanceKey?).Nodup)) ∧
    (¬ Desk.GoesOn raws.length confirmed terminal → o.exitCode ≠ 0 ∧ after = before) ∧
    ((∃ raw ∈ raws, blank raw = true) → o.exitCode ≠ 0 ∧ after = before) := by
  intro o terminal before after
  obtain ⟨system, client, watch, s, -, ⟨plain, rfl⟩, hremote, hinvoke⟩ |
    ⟨stop, s, hcode, hremote, hinvoke⟩ := invoke_reaches hserved input hcalls
  · change o = .ofDesk watch s (Desk.delete _ raws confirmed ⟨terminal, system⟩) at hinvoke
    have hbefore : system.world.remote.transcript = before := congrArg _ hremote
    have hstopped
        (h : ¬ Desk.GoesOn raws.length confirmed terminal ∨ ∃ raw ∈ raws, blank raw = true) :
        o.exitCode ≠ 0 ∧ after = before := by
      obtain ⟨hne, hsame⟩ := stopped_of_ofDesk hinvoke h
      exact ⟨hne, (congrArg Transcribed.transcript hsame).trans hbefore⟩
    refine ⟨fun hzero => ?_, fun hdeclined => hstopped (.inl hdeclined),
      fun hblank => hstopped (.inr hblank)⟩
    rw [← hbefore]
    exact done_of_ofDesk hinvoke (ne_nil_of_calls hcalls) hzero
  · have hne : o.exitCode ≠ 0 := by
      change (invoke around input disk args).exitCode ≠ 0
      rw [hinvoke]
      exact fun hzero => absurd (hcode.symm.trans hzero) Nat.one_ne_zero
    have hsame : after = before := by
      change (invoke around input disk args).shell.world.remote.transcript = _
      rw [hinvoke]
      exact congrArg Transcribed.transcript hremote
    exact ⟨fun h => absurd h hne, fun _ => ⟨hne, hsame⟩, fun _ => ⟨hne, hsame⟩⟩

section Obliging

/-- A manager of one fleet on an obliging remote side, with a transcript. -/
def transcribedObliging : Surroundings (Transcribed Unit) where
  environment := []
  supply :=
    let loop := RefreshLoop.fresh (.int 60)
    .given ((System.start loop (.start ⟨(), []⟩ .zero)).register Manager.spare)
      (Client.checked obliging (.text "rg")).transcribed
  interruptAt := 0

theorem servedBy_transcribedObliging : transcribedObliging.supply.ServedBy fun client =>
    ∃ plain : Client Unit, client = plain.transcribed :=
  .given _ ⟨_, rfl⟩

/-- The question is answered with yes. -/
theorem counts_of_delete_yes :
    let args := ["delete", "/VM/A"]
    Calls [] .empty args ⟨[], args⟩ (.delete ["/VM/A"] false) ∧
      ∃ o, o = invoke transcribedObliging "y\n" .empty args ∧ o.exitCode = 0 ∧
        ∃ (readings : List Exchange) (name : String) (ids : List String),
          o.shell.world.remote.transcript = readings ++ [.deleted name ids (.ok ())] ∧
          ids.length = 1 := by
  intro args
  have hcalls : Calls [] .empty args ⟨[], args⟩ (.delete ["/VM/A"] false) :=
    ⟨⟨rfl, rfl, rfl, rfl⟩, _, _, _, rfl, rfl, .verb rfl⟩
  have hcode : (invoke transcribedObliging "y\n" .empty args).exitCode = 0 := by
    decide +kernel
  obtain ⟨-, -, refs, readings, name, ids, -, -, hafter, -, hcount⟩ :=
    (counts_of_delete servedBy_transcribedObliging "y\n" hcalls).1 hcode
  have hbefore : transcribedObliging.supply.world.remote.transcript = [] := rfl
  rw [hbefore, List.nil_append] at hafter
  exact ⟨hcalls, _, rfl, hcode, readings, name, ids, hafter, hcount.2 (List.nodup_singleton _)⟩

/-- One instance is deleted, and two are reported. -/
theorem one_deleted_two_reported :
    let args := ["delete", "/vm/a", "/VM/A", "--yes"]
    Calls [] .empty args ⟨[], args⟩ (.delete ["/vm/a", "/VM/A"] true) ∧
      ∃ o, o = invoke transcribedObliging "" .empty args ∧ o.exitCode = 0 ∧
        o.shell.world.remote.transcript.filterMap (·.deletion?) = [("spare", ["0"])] ∧
        o.shell.terminal.stdout = "Deleted 2 VM(s)\n" := by
  refine ⟨⟨⟨rfl, rfl, rfl, rfl⟩, _, _, _, rfl, rfl, .verb rfl⟩, _, rfl, ?_⟩
  decide +kernel

end Obliging

end CommandLine
end FleetWarden
