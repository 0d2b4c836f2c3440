import EnetTsn.Sync.Pairing
import EnetTsn.Sync.SyncSend

namespace EnetTsn.Sync

open EnetTsn.Gptp EnetTsn.Library EnetTsn.Md

section Correction

theorem toNat_shiftLeft_sixteen (value : UInt64) :
    (value <<< 16).toNat = value.toNat * 2 ^ 16 % 2 ^ 64 := by
  rw [UInt64.toNat_shiftLeft, Nat.shiftLeft_eq]
  rfl

theorem toNat_shiftRight_sixteen (value : UInt64) : (value >>> 16).toNat = value.toNat / 2 ^ 16 := by
  rw [UInt64.toNat_shiftRight, Nat.shiftRight_eq_div_pow]
  rfl

private theorem split_correction (cf : UInt64) :
    ((cf >>> 16).toInt64.toUInt64 <<< 16) + cf.toUInt16.toUInt64 = cf := by
  have bound := cf.toNat_lt
  rw [UInt64.toUInt64_toInt64, ← UInt64.toNat_inj, UInt64.toNat_add, toNat_shiftLeft_sixteen,
    toNat_shiftRight_sixteen, UInt16.toNat_toUInt64, UInt64.toNat_toUInt16]
  omega

private theorem added_residence_iff (residence exact cf : UInt64) :
    cf + ((residence <<< 16) + residence.toUInt16.toUInt64) = cf + (exact <<< 16) ↔
      exact.toNat % 2 ^ 16 = 0 ∧ residence.toNat % 2 ^ 48 = exact.toNat % 2 ^ 48 := by
  have bound' := exact.toNat_lt
  rw [UInt64.add_right_inj, ← UInt64.toNat_inj, UInt64.toNat_add, toNat_shiftLeft_sixteen,
    toNat_shiftLeft_sixteen, UInt16.toNat_toUInt64, UInt64.toNat_toUInt16]
  omega

end Correction

section Frames

variable {memory : Memory} {value : MDSyncSend}

theorem correctionField_composeSyncFupTLV (value : MDSyncSend) (cf : UInt64) (memory : Memory) :
    correctionField (composeSyncFupTLV value cf memory) = correctionField memory := by
  simp only [correctionField, composeSyncFupTLV, mdFollowupInformationTlvCompose]
  simp (disch := omega) only [Memory.load_store_apart, Memory.load_copy_apart]

theorem correctionField_mdComposeHead (head : PTPMsgHeader) (memory : Memory) :
    correctionField (mdComposeHead head memory) = head.correctionField.toUInt64 := by
  simp only [correctionField, mdComposeHead]
  simp (disch := omega) [Memory.load_store_apart, Memory.load_storeArray_apart]

theorem correctionField_setFollowUp (port : SyncSendPort) (value : MDSyncSend)
    (sequenceId : UInt16) (syncTs : UInt64) (relays : port.weAreGm = false) :
    correctionField (setFollowUp port value sequenceId syncTs) = relayedCorrection value syncTs := by
  rw [setFollowUp, correctionField_composeSyncFupTLV, correctionField_mdComposeHead]
  simp [relays]

end Frames

def exactResidence (port : SyncPort) (ingress egress : UInt64) : UInt64 :=
  egress - ingress + port.neighborPropDelay + port.delayAsymmetry

def doubleResidence (port : SyncPort) (ingress egress : UInt64) : UInt64 :=
  let delay := truncateUInt64 (Binary64.add (Binary64.round port.neighborPropDelay.toNat)
    (Binary64.round port.delayAsymmetry.toNat))
  truncateUInt64 (Binary64.round (egress - (ingress - delay)).toNat)

/-- A residence time that is relayed as it is: a multiple of 2^16 ns that double precision
leaves alone, as far as the correction can hold it. -/
def Relayable (port : SyncPort) (ingress egress : UInt64) : Prop :=
  (exactResidence port ingress egress).toNat % 2 ^ 16 = 0 ∧
    (doubleResidence port ingress egress).toNat % 2 ^ 48 =
      (exactResidence port ingress egress).toNat % 2 ^ 48

/-- One Sync and its Follow_Up on their way through the four machines, each in any state
and at any time. -/
structure Relay where
  port : PortSyncReceivePort
  receive : SyncReceive
  portReceive : PortSyncReceive
  portSendPort : PortSyncSendPort
  portSend : PortSyncSend
  sendPort : SyncSendPort
  send : SyncSend
  times : UInt64 × UInt64 × UInt64 × UInt64

namespace Relay

/-- What the machines make of each other's structures, up to the Follow_Up that is sent. -/
structure Sends (relay : Relay) (message : SyncMessage) : Prop where
  steps : ∃ received portSyncSync,
    (mdSyncReceiveSm relay.port.toSyncPort relay.times.1 relay.receive).map Prod.snd =
      some (some received) ∧
    (portSyncSyncReceiveSmRecvMDSync relay.port received relay.times.2.1 relay.portReceive).map
      Prod.snd = some (some portSyncSync) ∧
    (portSyncSyncSendSmPortSyncSync relay.portSendPort portSyncSync relay.times.2.2.1
      relay.portSend).map Prod.snd = some (some relay.send.rcvdMDSyncPtr)
  sent : (mdSyncSendSm relay.sendPort relay.times.2.2.2 relay.send).map (fun out => out.1.sent) =
    some (relay.send.sent ++ [message])
  followUp : message.kind = .followUp

/-- The correction of the Follow_Up is that of the received messages with the delay of the
link and the residence time, in units of 2^-16 ns, and nothing else. -/
def Corrects (relay : Relay) (message : SyncMessage) : Prop :=
  correctionField message.frame =
    correctionField relay.receive.recSync + correctionField relay.receive.recFollowUp +
      (exactResidence relay.port.toSyncPort relay.receive.syncEventIngressTimestamp
        message.syncTs <<< 16)

end Relay

section Relayed

variable {relay : Relay} {message : SyncMessage}

private theorem sub_one_one : Binary64.sub 1 1 = 0 := by
  rw [Binary64.sub, sub_self]
  exact Binary64.round_of_fits (Binary64.fits_intCast 0 (by decide))

private theorem round_one : Binary64.round 1 = 1 :=
  Binary64.round_of_fits (Binary64.fits_intCast 1 (by decide))

private theorem linkDelay_one (port : SyncPort) (neighbor : port.neighborRateRatio = 1) :
    linkDelay port 1 = Binary64.add (Binary64.round port.neighborPropDelay.toNat)
      (Binary64.round port.delayAsymmetry.toNat) := by
  simp only [linkDelay, neighbor, Binary64.div, div_one, Binary64.round_round]

theorem Relay.Sends.value (sends : relay.Sends message)
    (twoStep : twoStepFlag relay.receive.recSync = true)
    (rateRatio : (followUpInformation 44 relay.receive.recFollowUp).rateRatio = 1)
    (neighbor : relay.port.neighborRateRatio = 1) : receivedCorrection relay.send.rcvdMDSyncPtr =
        correctionField relay.receive.recSync + correctionField relay.receive.recFollowUp ∧
      relay.send.rcvdMDSyncPtr.rateRatio = 1 ∧
      relay.send.rcvdMDSyncPtr.upstreamTxTime = relay.receive.syncEventIngressTimestamp -
        truncateUInt64 (Binary64.add (Binary64.round relay.port.neighborPropDelay.toNat)
          (Binary64.round relay.port.delayAsymmetry.toNat)) := by
  obtain ⟨received, portSyncSync, first, second, third⟩ := sends.steps
  obtain ⟨⟨_, _⟩, finished, rfl⟩ := Option.map_eq_some_iff.mp first
  have receivedFrom := mdSyncReceiveSm_result finished
  obtain ⟨⟨_, _⟩, handedOn, rfl⟩ := Option.map_eq_some_iff.mp second
  have portFrom := portSyncSyncReceiveSmRecvMDSync_result handedOn
  obtain ⟨⟨_, _⟩, sentOn, same⟩ := Option.map_eq_some_iff.mp third
  subst same
  have valueFrom := portSyncSyncSendSmPortSyncSync_result sentOn
  have ratio : received.rateRatio = 1 := by
    rw [receivedFrom]
    simp only [setMDSyncReceive, twoStep, if_true, rateRatio]
  refine ⟨?_, ?_, ?_⟩
  · rw [valueFrom, portFrom, receivedFrom]
    simp only [receivedCorrection, setMDSync, PortSyncSend.store, PortSyncReceive.receivedPortSync,
      setPSSyncPSSR, setMDSyncReceive, twoStep, if_true]
    exact split_correction _
  · rw [valueFrom, portFrom]
    simp only [setMDSync, PortSyncSend.store, PortSyncReceive.receivedPortSync, setPSSyncPSSR,
      ratio, neighbor, sub_one_one, Binary64.add, add_zero, round_one]
  · rw [valueFrom, portFrom, receivedFrom]
    simp only [setMDSync, PortSyncSend.store, PortSyncReceive.receivedPortSync, setPSSyncPSSR,
      setMDSyncReceive, twoStep, if_true, rateRatio, linkDelay_one _ neighbor]

/-- With all ratios 1, a bridge that is not the grandmaster relays the correction as it
should exactly when the residence time is relayable. -/
theorem corrects_iff (sends : relay.Sends message)
    (twoStep : twoStepFlag relay.receive.recSync = true)
    (rateRatio : (followUpInformation 44 relay.receive.recFollowUp).rateRatio = 1)
    (neighbor : relay.port.neighborRateRatio = 1) (relays : relay.sendPort.weAreGm = false) :
    relay.Corrects message ↔ Relayable relay.port.toSyncPort
      relay.receive.syncEventIngressTimestamp message.syncTs := by
  obtain ⟨correction, ratio, upstream⟩ := sends.value twoStep rateRatio neighbor
  obtain ⟨⟨_, _⟩, sent, appended⟩ := Option.map_eq_some_iff.mp sends.sent
  obtain ⟨messages, same, composed⟩ := (sending_mdSyncSendSm sent).sent
  have last : messages = [message] := List.append_cancel_left (same.symm.trans appended)
  obtain ⟨value, port⟩ := composed message (last ▸ List.mem_singleton_self message)
  have residence : residenceTime message.value message.syncTs =
      doubleResidence relay.port.toSyncPort relay.receive.syncEventIngressTimestamp
        message.syncTs := by
    rw [residenceTime, value, ratio, upstream, Binary64.mul, one_mul, Binary64.round_round]
    rfl
  have frame : correctionField message.frame = correctionField relay.receive.recSync +
      correctionField relay.receive.recFollowUp +
        ((residenceTime message.value message.syncTs <<< 16) +
          (residenceTime message.value message.syncTs).toUInt16.toUInt64) := by
    rw [SyncMessage.frame, sends.followUp]
    dsimp only
    rw [correctionField_setFollowUp _ _ _ _ (port ▸ relays), relayedCorrection, value, correction]
  rw [Relay.Corrects, frame, residence]
  exact added_residence_iff _ _ _

end Relayed

namespace Relay

def upPort : EnabledPort where
  BEGIN := false
  instanceEnable := true
  portOper := true
  ptpPortEnabled := true
  asCapable := true

/-- What the messages with no octet but those of `twoStepMessage` are sent on as. -/
def plainSend : MDSyncSend where
  rateRatio := 1
  gmTimeBaseIndicator := 0
  lastGmPhaseChange := { subns := 0, nsec := 0, nsecMsb := 0 }
  lastGmFreqChange := 0
  domainIndex := 0
  followUpCorrectionField := { subns := 0, nsec := 0, nsecMsb := 0 }
  sourcePortIdentity := { clockIdentity := ClockIdentity.fill 0, portIndex := 2 }
  logMessageInterval := 0
  preciseOriginTimestamp := { nanoseconds := 0, secondsLsb := 0, secondsMsb := 0 }
  upstreamTxTime := 0

/-- A bridge on links without delay whose Sync leaves at the given time, having arrived at
time 0. -/
def undelayed (egress : UInt64) : Relay where
  port := { toSyncPort := Paired.wiredPort.toSyncPort, thisPort := 1, syncReceiptTimeout := 3 }
  receive :=
    { SyncReceive.init with
      state := .waitingForFollowUp, lastState := .waitingForFollowUp, rcvdFollowUp := true
      recSync := Paired.twoStepMessage 7, recFollowUp := Paired.twoStepMessage 7 }
  portReceive :=
    { state := .discard, lastState := .discard, rcvdMDSync := false
      rcvdMDSyncPtr := { plainSend with seqid := 0 }
      syncReceiptTimeoutTimeInterval := 0, parentLogSyncInterval := 0 }
  portSendPort :=
    { upPort with
      domainIndex := 0, thisClock := ClockIdentity.fill 0, thisPort := 2
      selectedState := .masterPort, testSyncSendPort := false, currentLogSyncInterval := 0
      parentLogSyncInterval := 0, syncReceiptTimeout := 3, syncInterval := 0 }
  portSend :=
    { state := .transmitInit, lastState := .transmitInit, rcvdPSSync := false
      rcvdPSSyncPtr :=
        { plainSend with
          localPortIndex := 0, syncReceiptTimeoutTime := 0, syncNextSendTimeoutTime := 0
          lastSyncSeqID := 0 }
      lastPreciseOriginTimestamp := plainSend.preciseOriginTimestamp
      lastFollowUpCorrectionField := plainSend.followUpCorrectionField
      lastRateRatio := 0, lastUpstreamTxTime := 0, lastGmTimeBaseIndicator := 0
      lastGmPhaseChange := plainSend.lastGmPhaseChange
      lastGmFreqChange := 0, lastRcvdPortNum := 0, lastSyncSentTime := 0
      syncReceiptTimeoutTime := 0, interval1 := 0, numberSyncTransmissions := 0
      syncSlowdown := false, syncLocked := false }
  sendPort :=
    { upPort with
      asymmetryMeasurementMode := false, oneStepTxOper := false
      settings := { minorVersionPTP := 1, ptpTimescale := true, mode2011 := false }
      currentLogSyncInterval := 0, egressLatency := 0, weAreGm := false, txtsLostTime := 0
      random := 0, getts64 := 0, sendbuf := Memory.zero
      sendSync := .sent, sendFollowUp := .sent, sendOneStep := .sent }
  send :=
    { SyncSend.init with
      state := .sendSyncTwoStep, lastState := .sendSyncTwoStep, rcvdMDSyncPtr := plainSend
      rcvdMDTimestampReceive := true, syncTs := egress }
  times := (0, 0, 0, 0)

def undelayedFollowUp (egress : UInt64) : SyncMessage :=
  (undelayed egress).send.compose .followUp (undelayed egress).sendPort

theorem undelayed_sends (egress : UInt64) : (undelayed egress).Sends (undelayedFollowUp egress) where
  steps := by
    let received : MDSyncReceive := { plainSend with
        seqid := 7, sourcePortIdentity := { clockIdentity := ClockIdentity.fill 0, portIndex := 0 } }
    let portSyncSync : PortSyncSync := { received with
        localPortIndex := 1, syncReceiptTimeoutTime := 3000000000
        syncNextSendTimeoutTime := 1500000000, lastSyncSeqID := 7 }
    have first : (mdSyncReceiveSm (undelayed 0).port.toSyncPort 0 (undelayed 0).receive).map
        Prod.snd = some (some received) := by decide +kernel
    have second : (portSyncSyncReceiveSmRecvMDSync (undelayed 0).port received 0
        (undelayed 0).portReceive).map Prod.snd = some (some portSyncSync) := by decide +kernel
    have third : (portSyncSyncSendSmPortSyncSync (undelayed 0).portSendPort portSyncSync 0
        (undelayed 0).portSend).map Prod.snd = some (some plainSend) := by decide +kernel
    exact ⟨received, portSyncSync, first, second, third⟩
  sent := rfl
  followUp := rfl

end Relay

theorem corrects_iff_undelayed : (Relay.undelayed 65536).Corrects (Relay.undelayedFollowUp 65536) :=
  (corrects_iff (Relay.undelayed_sends 65536) (by decide) (by decide +kernel) rfl rfl).mpr
    ⟨by decide +kernel, by decide +kernel⟩

/-- After one nanosecond the correction is 2^16 + 1 and not 2^16. -/
theorem corrects_not_one : ¬ ∀ (relay : Relay) (message : SyncMessage), relay.Sends message →
    twoStepFlag relay.receive.recSync = true →
    (followUpInformation 44 relay.receive.recFollowUp).rateRatio = 1 →
    relay.port.neighborRateRatio = 1 → relay.sendPort.weAreGm = false → relay.Corrects message := by
  intro all
  have corrects := all (Relay.undelayed 1) _ (Relay.undelayed_sends 1) (by decide)
    (by decide +kernel) rfl rfl
  have sent : correctionField (Relay.undelayedFollowUp 1).frame = 65537 := by decide +kernel
  have expected : correctionField (Relay.undelayed 1).receive.recSync +
      correctionField (Relay.undelayed 1).receive.recFollowUp +
        (exactResidence (Relay.undelayed 1).port.toSyncPort 0 1 <<< 16) = 65536 := by
    decide +kernel
  have same : (65537 : UInt64) = 65536 := sent.symm.trans (corrects.trans expected)
  exact absurd same (by decide)

end EnetTsn.Sync
