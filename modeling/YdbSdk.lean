import YdbSdk.Go
import YdbSdk.Wire
import YdbSdk.Type
import YdbSdk.Time
import YdbSdk.Value.Basic
import YdbSdk.Value.Render
import YdbSdk.Value.Construct
import YdbSdk.Value.Canonical
import YdbSdk.Value.Typing
import YdbSdk.Value.Decode
import YdbSdk.Value.RoundTrip
import YdbSdk.Value.Zero
import YdbSdk.Value.Codec
import YdbSdk.Value.Cast
import YdbSdk.Value.Temporal
import YdbSdk.Value.Interval
import YdbSdk.Value.ZeroWire
import YdbSdk.Value.Map
import YdbSdk.Value.Fields
import YdbSdk.Discovery
