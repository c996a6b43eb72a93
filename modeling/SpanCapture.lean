import SpanCapture.FileTree
import SpanCapture.Main
import SpanCapture.Service.Watchdog
import SpanCapture.Proofs.Frame.Stack
import SpanCapture.Proofs.Recorder.Calls
import SpanCapture.Proofs.Recorder.CallTree
import SpanCapture.Proofs.Frame.Timeline
import SpanCapture.Proofs.Trace.Assembly
import SpanCapture.Proofs.Recorder.Timeline
import SpanCapture.Proofs.Delivery.Calls
import SpanCapture.Proofs.Service.Calls
import SpanCapture.Proofs.Service.Timeline
import SpanCapture.Proofs.Recorder.Openings
import SpanCapture.Proofs.Service.OpenCalls
import SpanCapture.Proofs.Recorder.Failures
import SpanCapture.Proofs.Service.Failures
import SpanCapture.Proofs.Endpoint.FirstBest
import SpanCapture.Proofs.Recorder.Entering
import SpanCapture.Proofs.Recorder.Counters
import SpanCapture.Proofs.Recorder.Course
import SpanCapture.Proofs.Operation.Sparing
import SpanCapture.Proofs.Recorder.EndpointMark
import SpanCapture.Proofs.Recorder.EndpointFrame
import SpanCapture.Proofs.Recorder.OwnData
import SpanCapture.Proofs.Collection.Settings
import SpanCapture.Proofs.Collection.Calls
import SpanCapture.Proofs.Collection.RunningOrder
import SpanCapture.Proofs.Collection.Members
import SpanCapture.Proofs.Collection.ActiveSnapshot
import SpanCapture.Proofs.Collection.Admission
import SpanCapture.Proofs.Collection.Bundle
import SpanCapture.Proofs.Collection.Verdict
import SpanCapture.Proofs.Collection.Discovery
import SpanCapture.Proofs.Collection.IgnoredApplications
import SpanCapture.Proofs.Delivery.Conservation
import SpanCapture.Proofs.Delivery.Fairness
import SpanCapture.Proofs.Delivery.Offers
import SpanCapture.Proofs.Delivery.Lines
import SpanCapture.Proofs.Recorder.Restart
import SpanCapture.Proofs.Recorder.FrameLimit
import SpanCapture.Proofs.Recorder.Unwinding
import SpanCapture.Proofs.Service.Sweeps
import SpanCapture.Proofs.Collection.Evaluation
import SpanCapture.Proofs.Collection.Share
import SpanCapture.Proofs.Service.Boards
import SpanCapture.Proofs.Service.DowngradeShare
import SpanCapture.Proofs.Collection.Enforcement
import SpanCapture.Proofs.Service.Downgraded
import SpanCapture.Proofs.Recorder.OneMark
import SpanCapture.Proofs.Trace.Diagnosis
import SpanCapture.Proofs.Endpoint.Ties
import SpanCapture.Proofs.Recorder.Fallback
import SpanCapture.Proofs.Recorder.RegistrationOrder
import SpanCapture.Proofs.Collection.Notices
import SpanCapture.Proofs.Collection.NoticeLog
import SpanCapture.Proofs.Collection.LastNotice
import SpanCapture.Proofs.Collection.Seats
import SpanCapture.Proofs.Collection.AspectFailures
import SpanCapture.Proofs.Operation.Rich
import SpanCapture.Proofs.Service.RichObjects
import SpanCapture.Proofs.Operation.Turns
import SpanCapture.Proofs.Recorder.Discarding
import SpanCapture.Proofs.Recorder.Drift
import SpanCapture.Proofs.Collection.SwitchScope
import SpanCapture.Proofs.Sorted
import SpanCapture.Proofs.Json.Path
import SpanCapture.Proofs.Json.Reading
import SpanCapture.Proofs.Attribute.Nulls
import SpanCapture.Proofs.Attribute.RoundTrip
import SpanCapture.Proofs.Trace.Outline
import SpanCapture.Proofs.Recorder.Plans
import SpanCapture.Proofs.Service.Tracing
import SpanCapture.Proofs.Delivery.Willing
import SpanCapture.Proofs.Service.RootTraces
import SpanCapture.Proofs.Workload.Descent
import SpanCapture.Proofs.Workload.Requests
import SpanCapture.Proofs.Workload.Accounting
import SpanCapture.Proofs.Endpoint.LevelScore
import SpanCapture.Proofs.Collection.Settling
import SpanCapture.Proofs.Service.Building
