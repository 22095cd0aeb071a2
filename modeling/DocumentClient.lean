import DocumentClient.Rehearsal.Session
import DocumentClient.Proofs.Cursor.Life
import DocumentClient.Proofs.Cursor.Nested
import DocumentClient.Proofs.Cursor.Account
import DocumentClient.Proofs.Cursor.Blocking
import DocumentClient.Proofs.Cursor.Delivery
import DocumentClient.Proofs.Cursor.EventLoop
import DocumentClient.Proofs.Cursor.Iteration
import DocumentClient.Proofs.Cursor.Calls
import DocumentClient.Proofs.Cursor.Conduct
import DocumentClient.Proofs.Cursor.Failures
import DocumentClient.Proofs.Cursor.Overlap
import DocumentClient.Proofs.Cursor.Flavours
import DocumentClient.Proofs.Cursor.Balance
import DocumentClient.Proofs.Cursor.Terminal
import DocumentClient.Proofs.Cursor.Past
import DocumentClient.Proofs.Cursor.Sizes
import DocumentClient.Proofs.Cursor.Resizing
import DocumentClient.Proofs.Cursor.LastBatch
import DocumentClient.Proofs.Cursor.Closing
import DocumentClient.Proofs.Cursor.ReleaseOrder
import DocumentClient.Proofs.Cursor.Pacing
import DocumentClient.Proofs.Cursor.Interrupted
import DocumentClient.Proofs.Cursor.Dropping
import DocumentClient.Proofs.FieldRule.Places
import DocumentClient.Proofs.Command.Stages
import DocumentClient.Proofs.Command.Envelope
import DocumentClient.Proofs.Aggregation.Handover
import DocumentClient.Proofs.Aggregation.ReleaseOrder
import DocumentClient.Proofs.Aggregation.Shapes
import DocumentClient.Proofs.Reply.Legible
import DocumentClient.Proofs.Reply.Decoded
import DocumentClient.Proofs.Http.Outcomes
import DocumentClient.Proofs.Http.Masking
import DocumentClient.Proofs.Http.RequestUrl
import DocumentClient.Proofs.Names
import DocumentClient.Proofs.Rehearsal.Agreement
