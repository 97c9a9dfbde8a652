import AccessLog.Format
import AccessLog.Text.Case

/-!
# Presets

A preset names a well-known log format. All presets but `ltsv` decode with patterns, tried in the
listed order: the most detailed variant of a format comes first, and shorter variants follow as
fallbacks. The `ltsv` preset decodes labeled lines and takes no patterns.

Preset names are looked up regardless of case.

## Main statements

* `Preset.usesPatterns_eq_false`: only `ltsv` decodes without patterns.
-/

namespace AccessLog

open AccessLog.Text

/-- Apache common and combined log lines, separated by spaces or tabs; the combined form first. -/
def apacheClfPatterns : List String := [
  "^(?P<remote_host>\\S+) (?P<remote_logname>\\S+) (?P<remote_user>[\\S ]+) (?P<datetime>\\[[^\\]]+\\]) \\\"(?P<method>[A-Z\\-]+) (?P<request_uri>[^ \\\"]+) (?P<protocol>HTTP/[0-9.]+|-)\\\" (?P<status>[0-9]\x7b3\x7d) (?P<size>[0-9]+|-) \"(?P<referer>[^\\\"]*)\" \"(?P<user_agent>[^\\\"]*)\"",
  "^(?P<remote_host>\\S+) (?P<remote_logname>\\S+) (?P<remote_user>[\\S ]+) (?P<datetime>\\[[^\\]]+\\]) \\\"(?P<method>[A-Z\\-]+) (?P<request_uri>[^ \\\"]+) (?P<protocol>HTTP/[0-9.]+|-)\\\" (?P<status>[0-9]\x7b3\x7d) (?P<size>[0-9]+|-)",
  "^(?P<remote_host>\\S+)\\t(?P<remote_logname>\\S+)\\t(?P<remote_user>[\\S ]+)\\t(?P<datetime>\\[[^\\]]+\\])\\t\\\"(?P<method>[A-Z\\-]+) (?P<request_uri>[^ \\\"]+) (?P<protocol>HTTP/[0-9.]+|-)\\\"\\t(?P<status>[0-9]\x7b3\x7d)\\t(?P<size>[0-9]+|-)\\t\"(?P<referer>[^\\\"]*)\"\\t\"(?P<user_agent>[^\\\"]*)\"",
  "^(?P<remote_host>\\S+)\\t(?P<remote_logname>\\S+)\\t(?P<remote_user>[\\S ]+)\\t(?P<datetime>\\[[^\\]]+\\])\\t\\\"(?P<method>[A-Z\\-]+) (?P<request_uri>[^ \\\"]+) (?P<protocol>HTTP/[0-9.]+|-)\\\"\\t(?P<status>[0-9]\x7b3\x7d)\\t(?P<size>[0-9]+|-)"]

/-- Apache log lines led by the virtual host. -/
def apacheClfVhostPatterns : List String := [
  "^(?P<virtual_host>\\S+) (?P<remote_host>\\S+) (?P<remote_logname>\\S+) (?P<remote_user>[\\S ]+) (?P<datetime>\\[[^\\]]+\\]) \\\"(?P<method>[A-Z\\-]+) (?P<request_uri>[^ \\\"]+) (?P<protocol>HTTP/[0-9.]+|-)\\\" (?P<status>[0-9]\x7b3\x7d) (?P<size>[0-9]+|-) \"(?P<referer>[^\\\"]*)\" \"(?P<user_agent>[^\\\"]*)\"",
  "^(?P<virtual_host>\\S+) (?P<remote_host>\\S+) (?P<remote_logname>\\S+) (?P<remote_user>[\\S ]+) (?P<datetime>\\[[^\\]]+\\]) \\\"(?P<method>[A-Z\\-]+) (?P<request_uri>[^ \\\"]+) (?P<protocol>HTTP/[0-9.]+|-)\\\" (?P<status>[0-9]\x7b3\x7d) (?P<size>[0-9]+|-)",
  "^(?P<virtual_host>\\S+)\\t(?P<remote_host>\\S+)\\t(?P<remote_logname>\\S+)\\t(?P<remote_user>[\\S ]+)\\t(?P<datetime>\\[[^\\]]+\\])\\t\\\"(?P<method>[A-Z\\-]+) (?P<request_uri>[^ \\\"]+) (?P<protocol>HTTP/[0-9.]+|-)\\\"\\t(?P<status>[0-9]\x7b3\x7d)\\t(?P<size>[0-9]+|-)\\t\"(?P<referer>[^\\\"]*)\"\\t\"(?P<user_agent>[^\\\"]*)\"",
  "^(?P<virtual_host>\\S+)\\t(?P<remote_host>\\S+)\\t(?P<remote_logname>\\S+)\\t(?P<remote_user>[\\S ]+)\\t(?P<datetime>\\[[^\\]]+\\])\\t\\\"(?P<method>[A-Z\\-]+) (?P<request_uri>[^ \\\"]+) (?P<protocol>HTTP/[0-9.]+|-)\\\"\\t(?P<status>[0-9]\x7b3\x7d)\\t(?P<size>[0-9]+|-)"]

/-- Storage server access logs, the newest field layout first. -/
def s3Patterns : List String := [
  "^(?P<bucket_owner>[!-~]+) (?P<bucket>[!-~]+) (?P<time>\\[[^\\]]+\\]) (?P<remote_ip>[!-~]+) (?P<requester>[!-~]+) (?P<request_id>[!-~]+) (?P<operation>[!-~]+) (?P<key>[!-~]+) \\\"(?P<method>[A-Z\\-]+) (?P<request_uri>[^ \\\"]+) (?P<protocol>HTTP/[0-9.]+|-)\\\" (?P<http_status>\\d\x7b1,3\x7d) (?P<error_code>[!-~]+) (?P<bytes_sent>[\\d\\-.]+) (?P<object_size>[\\d\\-.]+) (?P<total_time>[\\d\\-.]+) (?P<turn_around_time>[\\d\\-.]+) \"(?P<referer>[^\\\"]*)\" \"(?P<user_agent>[^\\\"]*)\" (?P<version_id>[!-~]+) (?P<host_id>[!-~]+) (?P<signature_version>[!-~]+) (?P<cipher_suite>[!-~]+) (?P<authentication_type>[!-~]+) (?P<host_header>[!-~]+) (?P<tls_version>[!-~]+) (?P<access_point_arn>[!-~]+) (?P<acl_required>[!-~]+)",
  "^(?P<bucket_owner>[!-~]+) (?P<bucket>[!-~]+) (?P<time>\\[[^\\]]+\\]) (?P<remote_ip>[!-~]+) (?P<requester>[!-~]+) (?P<request_id>[!-~]+) (?P<operation>[!-~]+) (?P<key>[!-~]+) \\\"(?P<method>[A-Z\\-]+) (?P<request_uri>[^ \\\"]+) (?P<protocol>HTTP/[0-9.]+|-)\\\" (?P<http_status>\\d\x7b1,3\x7d) (?P<error_code>[!-~]+) (?P<bytes_sent>[\\d\\-.]+) (?P<object_size>[\\d\\-.]+) (?P<total_time>[\\d\\-.]+) (?P<turn_around_time>[\\d\\-.]+) \"(?P<referer>[^\\\"]*)\" \"(?P<user_agent>[^\\\"]*)\" (?P<version_id>[!-~]+) (?P<host_id>[!-~]+) (?P<signature_version>[!-~]+) (?P<cipher_suite>[!-~]+) (?P<authentication_type>[!-~]+) (?P<host_header>[!-~]+) (?P<tls_version>[!-~]+) (?P<access_point_arn>[!-~]+)",
  "^(?P<bucket_owner>[!-~]+) (?P<bucket>[!-~]+) (?P<time>\\[[^\\]]+\\]) (?P<remote_ip>[!-~]+) (?P<requester>[!-~]+) (?P<request_id>[!-~]+) (?P<operation>[!-~]+) (?P<key>[!-~]+) \\\"(?P<method>[A-Z\\-]+) (?P<request_uri>[^ \\\"]+) (?P<protocol>HTTP/[0-9.]+|-)\\\" (?P<http_status>\\d\x7b1,3\x7d) (?P<error_code>[!-~]+) (?P<bytes_sent>[\\d\\-.]+) (?P<object_size>[\\d\\-.]+) (?P<total_time>[\\d\\-.]+) (?P<turn_around_time>[\\d\\-.]+) \"(?P<referer>[^\\\"]*)\" \"(?P<user_agent>[^\\\"]*)\" (?P<version_id>[!-~]+) (?P<host_id>[!-~]+) (?P<signature_version>[!-~]+) (?P<cipher_suite>[!-~]+) (?P<authentication_type>[!-~]+) (?P<host_header>[!-~]+) (?P<tls_version>[!-~]+)",
  "^(?P<bucket_owner>[!-~]+) (?P<bucket>[!-~]+) (?P<time>\\[[^\\]]+\\]) (?P<remote_ip>[!-~]+) (?P<requester>[!-~]+) (?P<request_id>[!-~]+) (?P<operation>[!-~]+) (?P<key>[!-~]+) \\\"(?P<method>[A-Z\\-]+) (?P<request_uri>[^ \\\"]+) (?P<protocol>HTTP/[0-9.]+|-)\\\" (?P<http_status>\\d\x7b1,3\x7d) (?P<error_code>[!-~]+) (?P<bytes_sent>[\\d\\-.]+) (?P<object_size>[\\d\\-.]+) (?P<total_time>[\\d\\-.]+) (?P<turn_around_time>[\\d\\-.]+) \"(?P<referer>[^\\\"]*)\" \"(?P<user_agent>[^\\\"]*)\" (?P<version_id>[!-~]+) (?P<host_id>[!-~]+) (?P<signature_version>[!-~]+) (?P<cipher_suite>[!-~]+) (?P<authentication_type>[!-~]+) (?P<host_header>[!-~]+)",
  "^(?P<bucket_owner>[!-~]+) (?P<bucket>[!-~]+) (?P<time>\\[[^\\]]+\\]) (?P<remote_ip>[!-~]+) (?P<requester>[!-~]+) (?P<request_id>[!-~]+) (?P<operation>[!-~]+) (?P<key>[!-~]+) \\\"(?P<method>[A-Z\\-]+) (?P<request_uri>[^ \\\"]+) (?P<protocol>HTTP/[0-9.]+|-)\\\" (?P<http_status>\\d\x7b1,3\x7d) (?P<error_code>[!-~]+) (?P<bytes_sent>[\\d\\-.]+) (?P<object_size>[\\d\\-.]+) (?P<total_time>[\\d\\-.]+) (?P<turn_around_time>[\\d\\-.]+) \"(?P<referer>[^\\\"]*)\" \"(?P<user_agent>[^\\\"]*)\" (?P<version_id>[!-~]+)"]

/-- Content delivery standard logs, separated by tabs. -/
def cloudfrontPatterns : List String := [
  "^(?P<date>[\\d\\-.:]+)\\t(?P<time>[\\d\\-.:]+)\\t(?P<x_edge_location>[ -~]+)\\t(?P<sc_bytes>[\\d\\-.]+)\\t(?P<c_ip>[ -~]+)\\t(?P<cs_method>[ -~]+)\\t(?P<cs_host>[ -~]+)\\t(?P<cs_uri_stem>[ -~]+)\\t(?P<sc_status>\\d\x7b1,3\x7d|-)\\t(?P<cs_referer>[^\\\"]*)\\t(?P<cs_user_agent>[^\\\"]*)\\t(?P<cs_uri_query>[ -~]+)\\t(?P<cs_cookie>\\S+)\\t(?P<x_edge_result_type>[ -~]+)\\t(?P<x_edge_request_id>[ -~]+)\\t(?P<x_host_header>[ -~]+)\\t(?P<cs_protocol>[ -~]+)\\t(?P<cs_bytes>[\\d\\-.]+)\\t(?P<time_taken>[\\d\\-.]+)\\t(?P<x_forwarded_for>[ -~]+)\\t(?P<ssl_protocol>[ -~]+)\\t(?P<ssl_cipher>[ -~]+)\\t(?P<x_edge_response_result_type>[ -~]+)\\t(?P<cs_protocol_version>[ -~]+)\\t(?P<fle_status>[ -~]+)\\t(?P<fle_encrypted_fields>\\S+)\\t(?P<c_port>[\\d\\-.]+)\\t(?P<time_to_first_byte>[\\d\\-.]+)\\t(?P<x_edge_detailed_result_type>[ -~]+)\\t(?P<sc_content_type>[ -~]+)\\t(?P<sc_content_len>[\\d\\-.]+)\\t(?P<sc_range_start>[\\d\\-.]+)\\t(?P<sc_range_end>[\\d\\-.]+)"]

/-- Application load balancer access logs. -/
def albPatterns : List String := [
  "^(?P<type>[!-~]+) (?P<time>[!-~]+) (?P<elb>[!-~]+) (?P<client_port>[!-~]+) (?P<target_port>[!-~]+) (?P<request_processing_time>[\\d\\-.]+) (?P<target_processing_time>[\\d\\-.]+) (?P<response_processing_time>[\\d\\-.]+) (?P<elb_status_code>\\d\x7b1,3\x7d|-) (?P<target_status_code>\\d\x7b1,3\x7d|-) (?P<received_bytes>[\\d\\-.]+) (?P<sent_bytes>[\\d\\-.]+) \\\"(?P<method>[A-Z\\-]+) (?P<request_uri>[^ \\\"]+) (?P<protocol>HTTP/[0-9.]+|-|-)\\\" \"(?P<user_agent>[^\\\"]*)\" (?P<ssl_cipher>[!-~]+) (?P<ssl_protocol>[!-~]+) (?P<target_group_arn>[!-~]+) \"(?P<trace_id>[ -~]+)\" \"(?P<domain_name>[ -~]+)\" \"(?P<chosen_cert_arn>[ -~]+)\" (?P<matched_rule_priority>[!-~]+) (?P<request_creation_time>[!-~]+) \"(?P<actions_executed>[ -~]+)\" \"(?P<redirect_url>[ -~]+)\" \"(?P<error_reason>[ -~]+)\" \"(?P<target_port_list>[ -~]+)\" \"(?P<target_status_code_list>[ -~]+)\" \"(?P<classification>[ -~]+)\" \"(?P<classification_reason>[ -~]+)\""]

/-- Network load balancer access logs. -/
def nlbPatterns : List String := [
  "^(?P<type>[!-~]+) (?P<version>[!-~]+) (?P<time>[!-~]+) (?P<elb>[!-~]+) (?P<listener>[!-~]+) (?P<client_port>[!-~]+) (?P<destination_port>[!-~]+) (?P<connection_time>[\\d\\-.]+) (?P<tls_handshake_time>[\\d\\-.]+) (?P<received_bytes>[!-~]+) (?P<sent_bytes>[!-~]+) (?P<incoming_tls_alert>[!-~]+) (?P<chosen_cert_arn>[!-~]+) (?P<chosen_cert_serial>[ -~]+) (?P<tls_cipher>\\S+) (?P<tls_protocol_version>[!-~]+) (?P<tls_named_group>[!-~]+) (?P<domain_name>[!-~]+) (?P<alpn_fe_protocol>[!-~]+) (?P<alpn_be_protocol>[!-~]+) (?P<alpn_client_preference_list>[ -~]+) (?P<tls_connection_creation_time>[!-~]+)"]

/-- Classic load balancer access logs, with and without the user agent and TLS suffix. -/
def clbPatterns : List String := [
  "^(?P<time>[!-~]+) (?P<elb>[!-~]+) (?P<client_port>[!-~]+) (?P<backend_port>[!-~]+) (?P<request_processing_time>[\\d\\-.]+) (?P<backend_processing_time>[\\d\\-.]+) (?P<response_processing_time>[\\d\\-.]+) (?P<elb_status_code>\\d\x7b1,3\x7d|-) (?P<backend_status_code>\\d\x7b1,3\x7d|-) (?P<received_bytes>[\\d\\-.]+) (?P<sent_bytes>[\\d\\-.]+) \\\"(?P<method>[A-Z\\-]+) (?P<request_uri>[^ \\\"]+) (?P<protocol>HTTP/[0-9.]+|-)\\\" \"(?P<user_agent>[^\\\"]*)\" (?P<ssl_cipher>[!-~]+) (?P<ssl_protocol>[!-~]+)",
  "^(?P<time>[!-~]+) (?P<elb>[!-~]+) (?P<client_port>[!-~]+) (?P<backend_port>[!-~]+) (?P<request_processing_time>[\\d\\-.]+) (?P<backend_processing_time>[\\d\\-.]+) (?P<response_processing_time>[\\d\\-.]+) (?P<elb_status_code>\\d\x7b1,3\x7d|-) (?P<backend_status_code>\\d\x7b1,3\x7d|-) (?P<received_bytes>[\\d\\-.]+) (?P<sent_bytes>[\\d\\-.]+) \\\"(?P<method>[A-Z\\-]+) (?P<request_uri>[^ \\\"]+) (?P<protocol>HTTP/[0-9.]+|-)\\\""]

/-- A registered log format. -/
inductive Preset where
  /-- Apache common and combined log format. -/
  | apacheClf
  /-- Apache log format with a leading virtual host. -/
  | apacheClfVhost
  /-- Storage server access logs. -/
  | s3
  /-- Content delivery standard logs. -/
  | cloudfront
  /-- Application load balancer logs. -/
  | alb
  /-- Network load balancer logs. -/
  | nlb
  /-- Classic load balancer logs. -/
  | clb
  /-- Labeled tab-separated values. -/
  | ltsv
  deriving Repr, DecidableEq, Inhabited

namespace Preset

/-- Every preset, in the order they are registered. -/
def all : List Preset := [.apacheClf, .apacheClfVhost, .s3, .cloudfront, .alb, .nlb, .clb, .ltsv]

/-- The name of a preset. -/
def name : Preset → String
  | .apacheClf => "apache_clf"
  | .apacheClfVhost => "apache_clf_vhost"
  | .s3 => "s3"
  | .cloudfront => "cloudfront"
  | .alb => "alb"
  | .nlb => "nlb"
  | .clb => "clb"
  | .ltsv => "ltsv"

/-- The patterns a preset decodes with, in priority order; none for `ltsv`. -/
def patterns : Preset → List String
  | .apacheClf => apacheClfPatterns
  | .apacheClfVhost => apacheClfVhostPatterns
  | .s3 => s3Patterns
  | .cloudfront => cloudfrontPatterns
  | .alb => albPatterns
  | .nlb => nlbPatterns
  | .clb => clbPatterns
  | .ltsv => []

/-- Whether a preset decodes with patterns. -/
def usesPatterns : Preset → Bool
  | .ltsv => false
  | _ => true

/-- The preset of a name, in any case. -/
def ofName? (n : String) : Option Preset := all.find? (·.name == lowerString n)

theorem usesPatterns_eq_false (p : Preset) : p.usesPatterns = false ↔ p = .ltsv := by
  cases p <;> simp [usesPatterns]

/-- The preset names, sorted. -/
def names : List String := (all.map name).mergeSort (fun a b => decide (a ≤ b))

/-- The preset of a name, in any case, or the error listing the registered names. -/
def lookup (n : String) : Except Error Preset :=
  match ofName? n with
  | some p => .ok p
  | none => .error (.unknownPreset (lowerString n) (all.map name))

end Preset

end AccessLog
