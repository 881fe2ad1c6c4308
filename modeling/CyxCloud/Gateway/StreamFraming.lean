import CyxCloud.Gateway.DataStream
import Mathlib.Data.List.ReduceOption

/-!
# Framing of the data streams

The messages of a stream are numbered from zero, and a message that is marked as the last one should
be the final one.  The mark is set at the last position of the stream, so it is lost when that
position cannot be retrieved at the wrong moment; and the number of batches is announced from the
number of files, retrieved or not.
-/

namespace CyxCloud.Gateway

open CyxCloud.Core hiding Chunk
open Library Metadata

/-! ## Numbered messages -/

/-- The marks end with the only one that is set. -/
def Closed (marks : List Bool) : Prop := ∃ earlier, marks = List.replicate earlier false ++ [true]

/-- Messages are numbered from zero, and exactly the final one is marked as the last. -/
structure Framed (numbers : List Nat) (marks : List Bool) : Prop where
  contiguous : numbers = List.range numbers.length
  closed : Closed marks

theorem closed_nil : ¬ Closed [] := by
  rintro ⟨earlier, marks_eq⟩
  exact absurd marks_eq.symm (List.append_ne_nil_of_right_ne_nil _ (by simp))

theorem closed_false_cons {marks : List Bool} : Closed (false :: marks) ↔ Closed marks := by
  constructor
  · rintro ⟨earlier, marks_eq⟩
    cases earlier with
    | zero => simp at marks_eq
    | succ earlier =>
        rw [List.replicate_succ, List.cons_append, List.cons.injEq] at marks_eq
        exact ⟨earlier, marks_eq.2⟩
  · rintro ⟨earlier, rfl⟩
    exact ⟨earlier + 1, rfl⟩

theorem closed_true : Closed [true] := ⟨0, rfl⟩

/-! ## Batches of files -/

section Batches

variable {blake3 : Bytes → Bytes} {batchSize totalBatches : Nat}

/-- The message with the batch of a number. -/
def batchMessage (blake3 : Bytes → Bytes) (totalBatches : Nat) (isLast : Bool) (number : Nat)
    (items : List Bytes) : BatchResponse :=
  { batchIndex := number
    items
    itemHashes := items.map blake3
    batchHash := blake3 (items.map blake3).flatten
    totalBatches
    isLast }

/-- The messages with consecutive batches, of which only the final one may be marked. -/
def batchMessages (blake3 : Bytes → Bytes) (totalBatches : Nat) (closes : Bool) :
    Nat → List (List Bytes) → List BatchResponse
  | _, [] => []
  | number, items :: rest =>
      batchMessage blake3 totalBatches (rest.isEmpty && closes) number items ::
        batchMessages blake3 totalBatches closes (number + 1) rest

/-- The last position is retrieved, or the retrieved files do not fill their last batch. -/
def closesStream (batchSize : Nat) (filled : Nat) (retrieved : List (Option Bytes)) : Bool :=
  retrieved.getLast?.any Option.isSome ||
    !decide (batchSize ∣ filled + retrieved.reduceOption.length)

/-- The batch carries the hashes of its items. -/
def CurrentBatch.Hashed (blake3 : Bytes → Bytes) (current : CurrentBatch) : Prop :=
  current.itemHashes = current.items.map blake3

theorem hashed_push {current : CurrentBatch} (hashed : current.Hashed blake3)
    (retrieved : Option Bytes) : (current.push blake3 retrieved).Hashed blake3 := by
  cases retrieved with
  | none => exact hashed
  | some fileData =>
      rw [CurrentBatch.Hashed] at hashed ⊢
      simp [CurrentBatch.push, hashed]

theorem items_push (current : CurrentBatch) (retrieved : Option Bytes) :
    (current.push blake3 retrieved).items = current.items ++ retrieved.toList := by
  cases retrieved with
  | none => simp [CurrentBatch.push]
  | some fileData => rfl

theorem response_eq {current : CurrentBatch} (hashed : current.Hashed blake3) (isLast : Bool) :
    current.response blake3 totalBatches isLast =
      batchMessage blake3 totalBatches isLast current.batchIndex current.items := by
  rw [CurrentBatch.response, hashed]
  rfl

theorem reduceOption_cons (item : Option Bytes) (rest : List (Option Bytes)) :
    (item :: rest).reduceOption = item.toList ++ rest.reduceOption := by
  cases item with
  | none => rw [List.reduceOption_cons_of_none, Option.toList_none, List.nil_append]
  | some fileData => rw [List.reduceOption_cons_of_some, Option.toList_some, List.singleton_append]

theorem getLast?_any_cons (item : Option Bytes) {rest : List (Option Bytes)} (left : rest ≠ []) :
    (item :: rest).getLast?.any Option.isSome = rest.getLast?.any Option.isSome := by
  obtain ⟨next, later, rfl⟩ := List.exists_cons_of_ne_nil left
  rw [List.getLast?_cons_cons]

/-- Whether the stream is closed is decided by what is left of it. -/
theorem closesStream_cons (filled : Nat) (item : Option Bytes) {rest : List (Option Bytes)}
    (some_left : rest ≠ []) :
    closesStream batchSize filled (item :: rest) =
      closesStream batchSize (filled + item.toList.length) rest := by
  rw [closesStream, closesStream, reduceOption_cons, List.length_append, Nat.add_assoc,
    getLast?_any_cons item some_left]

theorem closesStream_full (rest : List (Option Bytes)) :
    closesStream batchSize batchSize rest = closesStream batchSize 0 rest := by
  rw [closesStream, closesStream, Nat.zero_add]
  simp

/-- A stream from which nothing more is retrieved is not closed after a full batch. -/
theorem closesStream_eq_false {rest : List (Option Bytes)} (none_left : rest.reduceOption = []) :
    closesStream batchSize 0 rest = false := by
  have last_missing : rest.getLast?.any Option.isSome = false := by
    cases last_eq : rest.getLast? with
    | none => rfl
    | some last =>
        cases last with
        | none => rfl
        | some fileData =>
            have member := List.reduceOption_mem_iff.mpr (List.mem_of_getLast? last_eq)
            rw [none_left] at member
            exact absurd member List.not_mem_nil
  rw [closesStream, last_missing, none_left]
  simp

/-- A connected client gets the retrieved files in batches. -/
theorem sendBatches_eq {accepts : Nat → Bool} (connected : ∀ number, accepts number = true)
    (size_positive : 0 < batchSize) {current : CurrentBatch} (hashed : current.Hashed blake3)
    (room : current.items.length < batchSize) {retrieved : List (Option Bytes)}
    (some_left : retrieved ≠ []) :
    sendBatches blake3 accepts batchSize totalBatches current retrieved =
      batchMessages blake3 totalBatches (closesStream batchSize current.items.length retrieved)
        current.batchIndex (blocks batchSize (current.items ++ retrieved.reduceOption)) := by
  induction retrieved generalizing current with
  | nil => exact absurd rfl some_left
  | cons item rest induction =>
      have items_eq : (current.push blake3 item).items = current.items ++ item.toList :=
        items_push current item
      have hashed_next := hashed_push hashed item
      have number_eq : (current.push blake3 item).batchIndex = current.batchIndex := by
        cases item <;> rfl
      have fits : (current.push blake3 item).items.length ≤ batchSize := by
        rw [items_eq, List.length_append]
        cases item <;> simp <;> omega
      rw [reduceOption_cons, ← List.append_assoc, ← items_eq, sendBatches]
      simp only [connected, if_true, response_eq hashed_next, number_eq]
      cases rest with
      | nil =>
          rw [List.reduceOption_nil, List.append_nil]
          by_cases empty : (current.push blake3 item).items = []
          · simp [empty, sendBatches, (blocks_eq_nil_iff size_positive []).mpr rfl, batchMessages]
          · have closes : closesStream batchSize current.items.length [item] = true := by
              cases item with
              | some fileData => rfl
              | none =>
                  have filled : 0 < current.items.length := by
                    rw [items_eq, Option.toList_none, List.append_nil] at empty
                    exact List.length_pos_iff.mpr empty
                  have partly : ¬ batchSize ∣ current.items.length := fun divides =>
                    absurd (Nat.le_of_dvd filled divides) (Nat.not_le.mpr room)
                  simp [closesStream, partly]
            rw [closes, blocks_of_length_le empty fits]
            simp [empty, sendBatches, batchMessages]
      | cons next later =>
          have left_over : next :: later ≠ [] := List.cons_ne_nil next later
          have filled_eq : current.items.length + item.toList.length =
              (current.push blake3 item).items.length := by
            rw [items_eq, List.length_append]
          rw [closesStream_cons _ _ left_over, filled_eq]
          rcases Nat.lt_or_eq_of_le fits with short | full
          · rw [if_neg (by simp [short]), induction hashed_next short left_over, number_eq]
          · have filled : (current.push blake3 item).items ≠ [] := by
              rw [← List.length_pos_iff, full]
              exact size_positive
            have sends : ((decide (batchSize ≤ (current.push blake3 item).items.length) ||
                (next :: later).isEmpty) && !(current.push blake3 item).items.isEmpty) = true := by
              simp [full, filled]
            have hashed_empty : CurrentBatch.Hashed blake3
                { batchIndex := current.batchIndex + 1, items := [], itemHashes := [] } := rfl
            rw [if_pos sends, full, closesStream_full, blocks_append_of_length_eq size_positive full,
              batchMessages, induction hashed_empty size_positive left_over]
            -- The message of a full batch is not marked: if nothing follows, the stream stays open.
            congr 2
            cases none_left : blocks batchSize (next :: later).reduceOption with
            | cons block following => rfl
            | nil =>
                rw [closesStream_eq_false ((blocks_eq_nil_iff size_positive _).mp none_left)]
                rfl

theorem batchMessages_numbers (closes : Bool) (number : Nat) (batches : List (List Bytes)) :
    (batchMessages blake3 totalBatches closes number batches).map BatchResponse.batchIndex =
      List.range' number batches.length := by
  induction batches generalizing number with
  | nil => rfl
  | cons items rest induction =>
      rw [batchMessages, List.map_cons, induction, List.length_cons, List.range'_succ]
      rfl

theorem batchMessages_closed_iff (closes : Bool) (number : Nat) (batches : List (List Bytes)) :
    Closed ((batchMessages blake3 totalBatches closes number batches).map BatchResponse.isLast) ↔
      batches ≠ [] ∧ closes = true := by
  induction batches generalizing number with
  | nil =>
      simp only [batchMessages, List.map_nil, ne_eq, not_true_eq_false, false_and, iff_false]
      exact closed_nil
  | cons items rest induction =>
      rw [batchMessages, List.map_cons]
      cases rest with
      | nil =>
          cases closes with
          | true => exact iff_of_true closed_true ⟨List.cons_ne_nil _ _, rfl⟩
          | false =>
              refine iff_of_false (fun closed => ?_) fun both => Bool.false_ne_true both.2
              exact closed_nil (closed_false_cons.mp closed)
      | cons next later =>
          refine closed_false_cons.trans ((induction (number + 1)).trans ?_)
          simp

theorem length_batchMessages (closes : Bool) (number : Nat) (batches : List (List Bytes)) :
    (batchMessages blake3 totalBatches closes number batches).length = batches.length := by
  induction batches generalizing number with
  | nil => rfl
  | cons items rest induction => rw [batchMessages, List.length_cons, induction, List.length_cons]

theorem totalBatches_of_mem {closes : Bool} {number : Nat} {batches : List (List Bytes)}
    {message : BatchResponse}
    (sent : message ∈ batchMessages blake3 totalBatches closes number batches) :
    message.totalBatches = totalBatches := by
  induction batches generalizing number with
  | nil => exact absurd sent List.not_mem_nil
  | cons items rest induction =>
      rcases List.mem_cons.mp sent with rfl | later
      · rfl
      · exact induction later

theorem getElem?_batchMessages {closes : Bool} {first number : Nat} {batches : List (List Bytes)}
    {message : BatchResponse}
    (sent : (batchMessages blake3 totalBatches closes first batches)[number]? = some message) :
    ∃ items isLast, batches[number]? = some items ∧
      message = batchMessage blake3 totalBatches isLast (first + number) items := by
  induction batches generalizing first number with
  | nil => cases sent
  | cons items rest induction =>
      cases number with
      | zero => exact ⟨items, _, rfl, (Option.some.inj sent).symm⟩
      | succ number =>
          obtain ⟨later, isLast, found, rfl⟩ := induction sent
          refine ⟨later, isLast, found, ?_⟩
          rw [Nat.add_assoc, Nat.add_comm 1 number]

/-- A client that goes away gets the first of the messages. -/
theorem sendBatches_prefix (blake3 : Bytes → Bytes) (accepts : Nat → Bool)
    (batchSize totalBatches : Nat) (current : CurrentBatch) (retrieved : List (Option Bytes)) :
    sendBatches blake3 accepts batchSize totalBatches current retrieved <+:
      sendBatches blake3 (fun _ => true) batchSize totalBatches current retrieved := by
  induction retrieved generalizing current with
  | nil => exact List.prefix_refl _
  | cons item rest induction =>
      rw [sendBatches, sendBatches]
      split
      · split
        · exact (List.prefix_cons_inj _).mpr (induction _)
        · exact List.nil_prefix
      · exact induction _

end Batches

/-! ## Batches of bytes -/

section Data

variable {accepts : Nat → Bool} {threshold : Nat}

/-- The bytes that wait for the next message, once chunks of these sizes have been put into
batches. -/
def waitingBytes (threshold : Nat) : Nat → List Nat → Nat
  | waiting, [] => waiting
  | waiting, size :: rest =>
      if threshold ≤ waiting + size then waitingBytes threshold 0 rest
      else waitingBytes threshold (waiting + size) rest

/-- The messages go on with the next number. -/
theorem sendData_numbers (accepts : Nat → Bool) (threshold number : Nat) (batchData : Bytes)
    (retrieved : List (Option Bytes)) :
    (sendData accepts threshold number batchData retrieved).map DataChunk.batchIndex =
      List.range' number (sendData accepts threshold number batchData retrieved).length := by
  induction retrieved generalizing number batchData with
  | nil =>
      rw [sendData]
      split <;> rfl
  | cons item rest induction =>
      cases item with
      | none => exact induction number batchData
      | some data =>
          rw [sendData]
          split
          · split
            · rw [List.map_cons, induction, List.length_cons, List.range'_succ]
            · rfl
          · exact induction number (batchData ++ data)

/-- The stream is closed if its last position is retrieved, or bytes are left over for a message
after the loop. -/
theorem sendData_closed_iff (connected : ∀ number, accepts number = true) (number : Nat)
    (batchData : Bytes) (retrieved : List (Option Bytes)) :
    Closed ((sendData accepts threshold number batchData retrieved).map DataChunk.isLast) ↔
      retrieved.getLast?.any Option.isSome = true ∨
        waitingBytes threshold batchData.length (retrieved.reduceOption.map List.length) ≠ 0 := by
  induction retrieved generalizing number batchData with
  | nil =>
      rw [sendData, connected, Bool.and_true, List.reduceOption_nil, List.map_nil, waitingBytes]
      cases batchData with
      | nil => simpa using closed_nil
      | cons byte bytes => simpa using closed_true
  | cons item rest induction =>
      by_cases left : rest = []
      · subst left
        cases item with
        | none => exact induction number batchData
        | some data =>
            rw [sendData]
            simpa [connected, sendData] using closed_true
      · have last_eq := getLast?_any_cons item left
        cases item with
        | none =>
            rw [last_eq, List.reduceOption_cons_of_none]
            exact induction number batchData
        | some data =>
            have more : rest.isEmpty = false := by simpa using left
            rw [last_eq, List.reduceOption_cons_of_some, List.map_cons, waitingBytes, sendData, more,
              ← List.length_append]
            simp only [connected, if_true, Bool.or_false, decide_eq_true_eq]
            split
            · rw [List.map_cons, closed_false_cons]
              exact induction (number + 1) []
            · exact induction number (batchData ++ data)

end Data

/-! ## Both streams -/

/-- The messages are framed, and each announces their number. -/
def BatchesFramed (messages : List BatchResponse) : Prop :=
  Framed (messages.map BatchResponse.batchIndex) (messages.map BatchResponse.isLast) ∧
    ∀ message ∈ messages, message.totalBatches = messages.length

/-- The messages are framed. -/
def ChunksFramed (messages : List DataChunk) : Prop :=
  Framed (messages.map DataChunk.batchIndex) (messages.map DataChunk.isLast)

/-- The files that can be retrieved need as many batches as all files, and the last file can be
retrieved or the last batch is not full. -/
def FilesFillBatches (env : StreamBatchesEnv) (db : DatasetDatabase)
    (request : StreamBatchesRequest) : Prop :=
  let files := db.getDatasetFiles env.fileOrder request.datasetId
  let retrieved := retrievedFiles env request db.toDatabase files
  divCeil files.length request.size = divCeil retrieved.reduceOption.length request.size ∧
    (retrieved.getLast?.any Option.isSome = true ∨
      ¬ request.size ∣ retrieved.reduceOption.length)

/-- The batch size is not negative, and the last chunk can be retrieved or some bytes wait after
it. -/
def ChunksFillBatches (env : StreamDataEnv) (db : Database) (request : StreamDataRequest) : Prop :=
  let retrieved := retrievedChunks env request db (db.getFileChunks request.fileId)
  0 ≤ request.batchSize ∧
    (retrieved.getLast?.any Option.isSome = true ∨
      waitingBytes (request.batchSize.toNat * 1024) 0 (retrieved.reduceOption.map List.length) ≠ 0)

instance (env : StreamBatchesEnv) (db : DatasetDatabase) (request : StreamBatchesRequest) :
    Decidable (FilesFillBatches env db request) :=
  inferInstanceAs (Decidable (_ ∧ _))

instance (env : StreamDataEnv) (db : Database) (request : StreamDataRequest) :
    Decidable (ChunksFillBatches env db request) :=
  inferInstanceAs (Decidable (_ ∧ _))

theorem StreamBatchesRequest.size_positive (request : StreamBatchesRequest) : 0 < request.size := by
  rw [StreamBatchesRequest.size]
  omega

theorem streamOrder_perm (shuffle : Bool) (shuffled : RowOrder Nat) (count : Nat) :
    (streamOrder shuffle shuffled count).Perm (List.range count) := by
  cases shuffle with
  | true => exact shuffled.arrange_perm _
  | false => exact List.Perm.refl _

/-- The positions of a list in order give the list. -/
theorem filterMap_range {α : Type} (entries : List α) :
    (List.range entries.length).filterMap (fun position => entries[position]?) = entries := by
  have some_eq : (List.range entries.length).map (fun position => entries[position]?) =
      entries.map some := by
    apply List.ext_getElem
    · simp
    · intro position _ bound
      simp
  rw [show (fun position : Nat => entries[position]?) = id ∘ fun position => entries[position]?
    from rfl, ← List.filterMap_map, some_eq, List.filterMap_map]
  simp

/-- Every entry is sent once. -/
theorem inOrder_perm {α : Type} (shuffle : Bool) (shuffled : RowOrder Nat) (entries : List α) :
    ((streamOrder shuffle shuffled entries.length).filterMap fun position =>
      entries[position]?).Perm entries := by
  have perm := (streamOrder_perm shuffle shuffled entries.length).filterMap fun position =>
    entries[position]?
  rwa [filterMap_range] at perm

/-- The stream of a dataset goes over all its files, of which there is one at least. -/
theorem streamBatches_ok {blake3 : Bytes → Bytes} {env : StreamBatchesEnv} {db : DatasetDatabase}
    {request : StreamBatchesRequest} {messages : List BatchResponse}
    (ok : streamBatches blake3 env db request = .ok messages) :
    let files := db.getDatasetFiles env.fileOrder request.datasetId
    files ≠ [] ∧ messages = sendBatches blake3 env.accepts request.size
      (divCeil files.length request.size) .first
      (retrievedFiles env request db.toDatabase files) := by
  intro files
  rw [streamBatches] at ok
  split at ok
  · cases ok
  · split at ok
    · cases ok
    · split at ok
      · cases ok
      · split at ok
        · cases ok
        · split at ok
          · cases ok
          · rename_i file rest files_eq
            obtain rfl := Except.ok.inj ok
            rw [show files = file :: rest from files_eq]
            exact ⟨List.cons_ne_nil file rest, rfl⟩

theorem streamData_ok {env : StreamDataEnv} {db : Database} {request : StreamDataRequest}
    {messages : List DataChunk} (ok : streamData env db request = .ok messages) :
    (request.batchSize < 0 ∧ messages = []) ∨
      (0 ≤ request.batchSize ∧ messages = sendData env.accepts (request.batchSize.toNat * 1024) 0 []
        (retrievedChunks env request db (db.getFileChunks request.fileId))) := by
  rw [streamData] at ok
  split at ok
  · cases ok
  · split at ok
    · cases ok
    · rename_i chunk rest chunks_eq
      split at ok
      · rename_i negative
        exact .inl ⟨negative, (Except.ok.inj ok).symm⟩
      · rename_i not_negative
        rw [chunks_eq]
        exact .inr ⟨Int.not_lt.mp not_negative, (Except.ok.inj ok).symm⟩

theorem retrievedFiles_ne_nil {env : StreamBatchesEnv} {request : StreamBatchesRequest}
    {db : Database} {files : List DatasetFile} (files_ne : files ≠ []) :
    retrievedFiles env request db files ≠ [] := by
  intro empty
  have none_sent : filesInOrder env request files = [] := by
    simpa [retrievedFiles] using empty
  exact files_ne (List.nil_perm.mp
    (none_sent ▸ inOrder_perm request.shuffle (env.shuffled request.seed) files))

theorem batchesFramed_iff {blake3 : Bytes → Bytes} {env : StreamBatchesEnv} {db : DatasetDatabase}
    {request : StreamBatchesRequest} {messages : List BatchResponse}
    (connected : ∀ number, env.accepts number = true)
    (ok : streamBatches blake3 env db request = .ok messages) :
    BatchesFramed messages ↔ FilesFillBatches env db request := by
  obtain ⟨files_ne, messages_eq⟩ := streamBatches_ok ok
  have first_hashed : CurrentBatch.first.Hashed blake3 := rfl
  rw [sendBatches_eq connected request.size_positive first_hashed request.size_positive
    (retrievedFiles_ne_nil files_ne)] at messages_eq
  generalize retrieved_eq : retrievedFiles env request db.toDatabase
    (db.getDatasetFiles env.fileOrder request.datasetId) = retrieved at messages_eq
  change messages = batchMessages _ _ (closesStream request.size 0 retrieved) 0
    (blocks request.size retrieved.reduceOption) at messages_eq
  have numbers : messages.map BatchResponse.batchIndex =
      List.range (messages.map BatchResponse.batchIndex).length := by
    rw [messages_eq, batchMessages_numbers, List.length_range', List.range_eq_range']
  have closed_iff : Closed (messages.map BatchResponse.isLast) ↔
      closesStream request.size 0 retrieved = true := by
    rw [messages_eq, batchMessages_closed_iff, and_iff_right_of_imp]
    intro closes empty
    rw [closesStream_eq_false ((blocks_eq_nil_iff request.size_positive _).mp empty)] at closes
    exact Bool.false_ne_true closes
  have length_eq : messages.length = divCeil retrieved.reduceOption.length request.size := by
    rw [messages_eq, length_batchMessages, length_blocks]
  have announced : ∀ message ∈ messages, message.totalBatches =
      divCeil (db.getDatasetFiles env.fileOrder request.datasetId).length request.size := by
    intro message sent
    rw [messages_eq] at sent
    exact totalBatches_of_mem sent
  have closes_iff : closesStream request.size 0 retrieved = true ↔
      retrieved.getLast?.any Option.isSome = true ∨
        ¬ request.size ∣ retrieved.reduceOption.length := by
    rw [closesStream, Nat.zero_add, Bool.or_eq_true, Bool.not_eq_true', decide_eq_false_iff_not]
  rw [BatchesFramed, FilesFillBatches, retrieved_eq, ← closes_iff, ← closed_iff, ← length_eq]
  constructor
  · rintro ⟨framed, total⟩
    refine ⟨?_, framed.closed⟩
    have messages_ne : messages ≠ [] := by
      rintro rfl
      exact closed_nil framed.closed
    obtain ⟨message, sent⟩ := List.exists_mem_of_ne_nil _ messages_ne
    rw [← announced message sent, total message sent]
  · rintro ⟨total, closed⟩
    exact ⟨⟨numbers, closed⟩, fun message sent => (announced message sent).trans total⟩

theorem chunksFramed_iff {env : StreamDataEnv} {db : Database} {request : StreamDataRequest}
    {messages : List DataChunk} (connected : ∀ number, env.accepts number = true)
    (ok : streamData env db request = .ok messages) :
    ChunksFramed messages ↔ ChunksFillBatches env db request := by
  rcases streamData_ok ok with ⟨negative, rfl⟩ | ⟨not_negative, messages_eq⟩
  · refine iff_of_false (fun framed => closed_nil framed.closed) fun fills => ?_
    exact absurd fills.1 (Int.not_le.mpr negative)
  · have numbers : messages.map DataChunk.batchIndex =
        List.range (messages.map DataChunk.batchIndex).length := by
      rw [messages_eq, sendData_numbers, List.length_range', List.range_eq_range']
    have closed_iff := @sendData_closed_iff env.accepts (request.batchSize.toNat * 1024) connected 0 []
      (retrievedChunks env request db (db.getFileChunks request.fileId))
    rw [← messages_eq] at closed_iff
    rw [ChunksFillBatches, and_iff_right not_negative]
    exact ⟨fun framed => closed_iff.mp framed.closed, fun fills => ⟨numbers, closed_iff.mpr fills⟩⟩

/-- A stream to a connected client is framed exactly if what can be retrieved fills its batches. -/
theorem stream_framing_iff (blake3 : Bytes → Bytes) :
    (∀ (env : StreamBatchesEnv) (db : DatasetDatabase) (request : StreamBatchesRequest)
      (messages : List BatchResponse), (∀ number, env.accepts number = true) →
        streamBatches blake3 env db request = .ok messages →
          (BatchesFramed messages ↔ FilesFillBatches env db request)) ∧
      ∀ (env : StreamDataEnv) (db : Database) (request : StreamDataRequest)
        (messages : List DataChunk), (∀ number, env.accepts number = true) →
          streamData env db request = .ok messages →
            (ChunksFramed messages ↔ ChunksFillBatches env db request) :=
  ⟨fun _ _ _ _ connected ok => batchesFramed_iff connected ok,
    fun _ _ _ _ connected ok => chunksFramed_iff connected ok⟩

namespace TwoFiles

/-- The row of a file of one byte. -/
def file (id : Uuid) : File :=
  { id
    name := "sample"
    path := "training/sample"
    contentHash := [UInt8.ofNat id]
    sizeBytes := 1
    chunkCount := 1
    dataShards := DATA_SHARDS
    parityShards := PARITY_SHARDS
    chunkSize := DEFAULT_CHUNK_SIZE
    ownerId := none
    bucket := none
    status := .complete
    contentType := none
    createdAt := 0
    updatedAt := 0
    deletedAt := none }

/-- The row of its only chunk. -/
def chunk (fileId : Uuid) : Metadata.Chunk :=
  { chunkId := [UInt8.ofNat fileId]
    fileId
    chunkIndex := 0
    shardIndex := 0
    isParity := false
    sizeBytes := 1
    replicationFactor := 3
    currentReplicas := 1
    status := .active }

/-- The rows of the two files. -/
def files : List DatasetFile :=
  [{ datasetId := 9, fileId := 1, fileIndex := 0 }, { datasetId := 9, fileId := 2, fileIndex := 1 }]

/-- A dataset of two files. -/
def db : DatasetDatabase :=
  { buckets := []
    nodes := []
    files := [file 1, file 2]
    chunks := [chunk 1, chunk 2]
    chunkLocations := []
    repairJobs := []
    datasets := [{ id := 9, trustLevel := 0 }]
    datasetFiles := files }

/-- Every chunk has a cached address, whose node answers with the identifier of the chunk. -/
def chunkReads : ChunkReads :=
  { cached := fun _ => some ["http://node-1:50051"]
    locationsQuery := fun _ => true
    addressOrder := .insertion
    reply := fun chunkId _ _ => some chunkId }

/-- The query for the file at some position is not answered. -/
def env (missing : Nat) : StreamBatchesEnv :=
  { datasetQuery := true
    filesQuery := true
    fileOrder := .insertion
    shuffled := fun _ => .insertion
    reads := fun position =>
      { chunkReads with
        fileQuery := position != missing
        chunksQuery := true }
    accepts := fun _ => true }

/-- One file in a batch. -/
def request : StreamBatchesRequest :=
  { datasetId := 9
    batchSize := 1
    maxTrustLevel := 0
    shuffle := false
    seed := 0 }

/-- One chunk after the other. -/
def dataEnv : StreamDataEnv :=
  { chunksQuery := true
    shuffled := .insertion
    reads := fun _ => chunkReads
    accepts := fun _ => true }

/-- The chunks of the first file. -/
def dataRequest : StreamDataRequest :=
  { fileId := 1
    batchSize := 1
    shuffle := false }

theorem getDatasetFiles_eq (missing : Nat) :
    db.getDatasetFiles (env missing).fileOrder request.datasetId = files := by
  have sorted : files.Pairwise fun left right =>
      decide (left.fileIndex ≤ right.fileIndex) = true := by
    decide
  exact List.mergeSort_of_pairwise sorted

theorem streamBatches_eq (blake3 : Bytes → Bytes) (missing : Nat) :
    streamBatches blake3 (env missing) db request =
      .ok (sendBatches blake3 (fun _ => true) 1 2 .first
        (retrievedFiles (env missing) request db.toDatabase files)) := by
  have found : db.getDataset request.datasetId = some { id := 9, trustLevel := 0 } := rfl
  have trusted : ¬ request.maxTrust < 0 := by decide
  have queries : (env missing).datasetQuery = true ∧ (env missing).filesQuery = true := ⟨rfl, rfl⟩
  simp only [streamBatches, queries, found, trusted, getDatasetFiles_eq, files, if_false,
    Bool.true_eq_false]
  rfl

theorem retrievedFiles_all :
    retrievedFiles (env 2) request db.toDatabase files = [some [1], some [2]] := by
  decide +kernel

/-- Without failures each file is sent in a message of its own. -/
theorem streamBatches_all (blake3 : Bytes → Bytes) :
    streamBatches blake3 (env 2) db request =
      .ok [batchMessage blake3 2 false 0 [[1]], batchMessage blake3 2 true 1 [[2]]] := by
  rw [streamBatches_eq, retrievedFiles_all]
  rfl

/-- Both streams are framed if everything is retrieved. -/
theorem framed_without_failures :
    BatchesFramed [batchMessage id 2 false 0 [[1]], batchMessage id 2 true 1 [[2]]] ∧
      ChunksFramed [{ batchIndex := 0, data := [1], isLast := true }] := by
  have chunks : streamData dataEnv db.toDatabase dataRequest =
      .ok [{ batchIndex := 0, data := [1], isLast := true }] := by
    decide +kernel
  have fills : FilesFillBatches (env 2) db request := by
    rw [FilesFillBatches, getDatasetFiles_eq]
    decide +kernel
  have framing := stream_framing_iff id
  exact ⟨(framing.1 _ _ _ _ (fun _ => rfl) (streamBatches_all id)).mpr fills,
    (framing.2 _ _ _ _ (fun _ => rfl) chunks).mpr (by decide +kernel)⟩

/-- If the last file is not retrieved, no message is marked as the last. -/
theorem unframed_last_file_missing :
    ¬ ∀ (blake3 : Bytes → Bytes) (env : StreamBatchesEnv) (db : DatasetDatabase)
      (request : StreamBatchesRequest) (messages : List BatchResponse),
        (∀ number, env.accepts number = true) →
          streamBatches blake3 env db request = .ok messages → BatchesFramed messages := by
  intro framed
  have sent : streamBatches id (env 1) db request = .ok [batchMessage id 2 false 0 [[1]]] := by
    rw [streamBatches_eq]
    decide +kernel
  have open_end := (framed id (env 1) db request _ (fun _ => rfl) sent).1.closed
  exact closed_nil (closed_false_cons.mp open_end)

end TwoFiles

end CyxCloud.Gateway
