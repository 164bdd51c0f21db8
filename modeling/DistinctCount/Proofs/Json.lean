import DistinctCount.Json.Sketch
import DistinctCount.Proofs.Reached

namespace DistinctCount.Sketch
open Json Wire
variable {text : String} {bytes : Bytes} {s : Sketch}

-- What a text gives against what bytes give: the same sketch, with the same told on the
-- way, or the very failure and with it its message.
structure Agrees (loaded : Logged (Except JsonFailure Sketch)) (read : Except Failure (Logged Sketch)) : Prop where
  accepted : ∀ run, read = .ok run → loaded.value = .ok run.value ∧ loaded.events = run.events
  refused : ∀ failure, read = .error failure → loaded.value = .error (.refused failure) ∧ loaded.events = []

theorem ofJson_tokens (lexed : tokens? text = some (arrayTokens bytes)) : Agrees (ofJson text) (ofBytes bytes) := by
  obtain ⟨rest,read,blank⟩ := (readBytes_exact text.toList bytes).mpr lexed
  rw [ofJson,read]
  dsimp only
  cases loaded : ofBytes bytes with
  | error failure =>
    refine ⟨nofun,?_⟩
    rintro _ ⟨⟩
    exact ⟨rfl,rfl⟩
  | ok restored =>
    refine ⟨?_,nofun⟩
    rintro _ ⟨⟩
    rw [blank]
    exact ⟨rfl,congrArg List.reverse (List.nil_append _)⟩

theorem ofJson_accepted (accepted : (ofJson text).value = .ok s) :
    ∃ bytes run, tokens? text = some (arrayTokens bytes) ∧ ofBytes bytes = .ok run ∧ run.value = s := by
  rw [ofJson] at accepted
  split at accepted
  · cases accepted
  · rename_i bytes rest read
    split at accepted
    · cases accepted
    · rename_i restored loaded
      rw [Logged.value_bind,Logged.value_pure] at accepted
      split at accepted
      · rename_i blank
        cases accepted
        exact ⟨bytes,restored,(readBytes_exact _ _).mp ⟨rest,read,blank⟩,loaded,rfl⟩
      · cases accepted

theorem json_agrees :
    (∀ s : Sketch, s.toJson = "[" ++ ",".intercalate (s.toBytes.map fun byte => byte.toNat.repr) ++ "]" ∧
      tokens? s.toJson = some (arrayTokens s.toBytes)) ∧
    (∀ bytes, Agrees (ofJson (writeBytes bytes)) (ofBytes bytes)) ∧
    (∀ text bytes, tokens? text = some (arrayTokens bytes) → Agrees (ofJson text) (ofBytes bytes)) ∧
    (∀ text s, (ofJson text).value = .ok s →
      ∃ bytes run, tokens? text = some (arrayTokens bytes) ∧ ofBytes bytes = .ok run ∧ run.value = s) ∧
    ∀ s, Reached s → Agrees (ofJson s.toJson) (ofBytes s.toBytes) ∧ ∃ run, ofBytes s.toBytes = .ok run := by
  refine ⟨fun s => ⟨rfl,tokens_writeBytes s.toBytes⟩,fun bytes => ofJson_tokens (tokens_writeBytes bytes),
    fun _ _ => ofJson_tokens,fun _ _ => ofJson_accepted,?_⟩
  intro s reached
  obtain ⟨hashes,holds⟩ := reached_holds reached
  exact ⟨ofJson_tokens (tokens_writeBytes s.toBytes),_,ofBytes_toBytes holds⟩

theorem spaced_array_refused :
    tokens? " [8,\n112 ]\t" = some (arrayTokens [8,112]) ∧
    (ofJson " [8,\n112 ]\t").value = .error (.refused (.encodingVersion 1)) ∧
    let s := ((blank ⟨10,20⟩).insert 5).value
    Reached s ∧ ∃ run, ofBytes s.toBytes = .ok run ∧ (ofJson s.toJson).value = .ok run.value := by
  obtain ⟨_,_,agrees,_,texts⟩ := json_agrees
  have lexed : tokens? " [8,\n112 ]\t" = some (arrayTokens [8,112]) := by decide +kernel
  have failed : ofBytes [8,112] = .error (.encodingVersion 1) := by cbv
  have reached : Reached ((blank ⟨10,20⟩).insert 5).value := .inserted 5 (.created (p := ⟨10,20⟩) rfl)
  obtain ⟨same,run,read⟩ := texts _ reached
  exact ⟨lexed,((agrees _ _ lexed).refused _ failed).1,reached,run,read,(same.accepted run read).1⟩

end DistinctCount.Sketch
