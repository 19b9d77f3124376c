/-
Templates of the fluentd dialect, in which every stanza is a section between tags. Stores, buffers
and the ways to hand records on are templates that others include. Braces are written as the source
of a template says.
-/

import LogForwarder.Template.Engine

namespace LogForwarder.Fluentd.Templates

/-- The head of the file. -/
def header : Template.Source := .braced "header" r##"## CLF GENERATED CONFIGURATION ###
# This file is a copy of the fluentd configuration entrypoint
# which should normally be supplied in a configmap.

<system>
  log_level "#⦃ENV['LOG_LEVEL'] || 'warn'⦄"
</system>
"##

/-- The sources of the collector's own metrics. -/
def metrics : Template.Source := .braced "source_metrics" r##"# Prometheus Monitoring
<source>
  @type prometheus
  bind "[::]"
  <transport tls>
    cert_path /etc/collector/metrics/tls.crt
    private_key_path /etc/collector/metrics/tls.key
⟦- with .min_version⟧
    min_version ⟦.⟧
⟦- end⟧
⟦- with .ciphers⟧
    ciphers ⟦.⟧
⟦- end⟧
  </transport>
</source>

<source>
  @type prometheus_monitor
  <labels>
    hostname $⦃hostname⦄
  </labels>
</source>

# tail_monitor plugin which publishes log_collected_bytes_total
<source>
  @type collected_tail_monitor
  <labels>
    hostname $⦃hostname⦄
  </labels>
</source>

<source>
  @type prometheus_output_monitor
  <labels>
    hostname $⦃hostname⦄
  </labels>
</source>
"##

/-- The source of container records. -/
def container : Template.Source := .braced "source_container" r##"# Logs from containers (including openshift containers)
<source>
  @type tail
  @id ⟦.id⟧
  path "/var/log/pods/*/*/*.log"
  exclude_path ⟦quoteList .exclude⟧
  pos_file "/var/lib/fluentd/pos/es-containers.log.pos"
  follow_inodes true
  refresh_interval 5
  rotate_wait 5
  tag kubernetes.*
  read_from_head "true"
  skip_refresh_on_startup true
  @label ⟦.label⟧
  <parse>
    @type regexp
    expression /^(?<@timestamp>[^\s]+) (?<stream>stdout|stderr) (?<logtag>[F|P]) (?<message>.*)$/
    time_key '@timestamp'
    keep_time_key true
  </parse>
</source>
"##

/-- The source of journal records. -/
def journal : Template.Source := .braced "source_journal" r##"# Logs from linux journal
<source>
  @type systemd
  @id ⟦.id⟧
  @label ⟦.label⟧
  path '/var/log/journal'
  <storage>
    @type local
    persistent true
    path '/var/lib/fluentd/pos/journal_pos.json'
  </storage>
  matches "#⦃ENV['JOURNAL_FILTERS_JSON'] || '[]'⦄"
  tag journal
  read_from_head "#⦃if (val = ENV.fetch('JOURNAL_READ_FROM_HEAD','')) && (val.length > 0); val; else 'false'; end⦄"
</source>
"##

/-- A source of audit records in files. -/
def audit : Template.Source := .braced "source_audit" r##"# ⟦.desc⟧
<source>
  @type tail
  @id ⟦.id⟧
  @label ⟦.label⟧
  path ⟦.path⟧
  pos_file ⟦.pos_file⟧
  follow_inodes true
  tag ⟦.tag⟧
⟦- if eq .parse "json"⟧
  <parse>
    @type json
    time_key requestReceivedTimestamp
    keep_time_key true
    time_format %Y-%m-%dT%H:%M:%S.%N%z
  </parse>
⟦- else⟧
  <parse>
    @type ⟦.parse⟧
  </parse>
⟦- end⟧
</source>
"##

/-- The label where the lines of one record are put together. -/
def concat : Template.Source := .braced "label_concat" r##"# Concat log lines of container logs, and send to INGRESS pipeline
<label ⟦.id⟧>
  <filter kubernetes.**>
    @type concat
    key message
    partial_key logtag
    partial_value P
    separator ''
  </filter>

  <match kubernetes.**>
    @type relabel
    @label ⟦.next⟧
  </match>
</label>
"##

/-- The label where all records come in. -/
def ingress : Template.Source := .braced "label_ingress" r##"# Ingress pipeline
<label ⟦.id⟧>
  # Filter out PRIORITY from journal logs
  <filter journal>
    @type grep
    <exclude>
      key PRIORITY
      pattern ^7$
    </exclude>
  </filter>

  # Process OVN logs
  <filter ovn-audit.log**>
    @type record_modifier
    <record>
      @timestamp $⦃DateTime.parse(record['message'].split('|')[0]).rfc3339(6)⦄
      level $⦃record['message'].split('|')[3].downcase⦄
    </record>
  </filter>

  # Retag Journal logs to specific tags
  <match journal>
    @type rewrite_tag_filter
    @label ⟦.id⟧
    <rule>
      key CONTAINER_NAME
      pattern ^k8s_kibana\.
      tag kubernetes.journal.container.kibana
    </rule>
    <rule>
      key CONTAINER_NAME
      pattern ^k8s_[^_]+_logging-eventrouter-[^_]+_
      tag kubernetes.journal.container._default_.kubernetes-event
    </rule>
    <rule>
      key CONTAINER_NAME
      pattern ^k8s_[^_]+_[^_]+_default_
      tag kubernetes.journal.container._default_
    </rule>
    <rule>
      key CONTAINER_NAME
      pattern ^k8s_[^_]+_[^_]+_kube-(.+)_
      tag kubernetes.journal.container._kube-$1_
    </rule>
    <rule>
      key CONTAINER_NAME
      pattern ^k8s_[^_]+_[^_]+_openshift-(.+)_
      tag kubernetes.journal.container._openshift-$1_
    </rule>
    <rule>
      key CONTAINER_NAME
      pattern ^k8s_[^_]+_[^_]+_openshift_
      tag kubernetes.journal.container._openshift_
    </rule>
    <rule>
      key CONTAINER_NAME
      pattern ^k8s_.*fluentd
      tag kubernetes.journal.container.fluentd
    </rule>
    <rule>
      key CONTAINER_NAME
      pattern ^k8s_
      tag kubernetes.journal.container
    </rule>
    <rule>
      key _TRANSPORT
      pattern .+
      tag journal.system
    </rule>
  </match>

  # Invoke kubernetes apiserver to get kubernetes metadata
  <filter kubernetes.**>
    @id kubernetes-metadata
    @type kubernetes_metadata
    kubernetes_url 'https://kubernetes.default.svc'
    annotation_match ["^containerType\.logging\.openshift\.io\/.*$"]
    allow_orphans false
    cache_size '1000'
    ssl_partial_chain 'true'
  </filter>

  # Parse Json fields for container, journal and eventrouter logs
  <filter kubernetes.var.log.pods.**_eventrouter-**>
    @type parse_json_field
    merge_json_log true
    preserve_json_log true
    json_fields 'message'
  </filter>

  # Fix level field in audit logs
  <filter k8s-audit.log**>
    @type record_modifier
    <record>
      k8s_audit_level $⦃record['level']⦄
    </record>
  </filter>

  <filter openshift-audit.log**>
    @type record_modifier
    <record>
      openshift_audit_level $⦃record['level']⦄
    </record>
  </filter>

  # Viaq Data Model
  <filter **>
    @type viaq_data_model
    enable_flatten_labels true
    enable_prune_empty_fields false
    default_keep_fields CEE,time,@timestamp,aushape,ci_job,collectd,docker,fedora-ci,file,foreman,geoip,hostname,ipaddr4,ipaddr6,kubernetes,level,message,namespace_name,namespace_uuid,offset,openstack,ovirt,pid,pipeline_metadata,rsyslog,service,systemd,tags,testcase,tlog,viaq_msg_id
    keep_empty_fields 'message'
    rename_time true
    pipeline_type 'collector'
    process_kubernetes_events false
⟦- range .levels⟧
    <level>
      name ⟦.name⟧
      match '⟦.pattern⟧'
    </level>
⟦- end⟧
    <formatter>
      tag "journal.system**"
      type sys_journal
      remove_keys log,stream,MESSAGE,_SOURCE_REALTIME_TIMESTAMP,__REALTIME_TIMESTAMP,CONTAINER_ID,CONTAINER_ID_FULL,CONTAINER_NAME,PRIORITY,_BOOT_ID,_CAP_EFFECTIVE,_CMDLINE,_COMM,_EXE,_GID,_HOSTNAME,_MACHINE_ID,_PID,_SELINUX_CONTEXT,_SYSTEMD_CGROUP,_SYSTEMD_SLICE,_SYSTEMD_UNIT,_TRANSPORT,_UID,_AUDIT_LOGINUID,_AUDIT_SESSION,_SYSTEMD_OWNER_UID,_SYSTEMD_SESSION,_SYSTEMD_USER_UNIT,CODE_FILE,CODE_FUNCTION,CODE_LINE,ERRNO,MESSAGE_ID,RESULT,UNIT,_KERNEL_DEVICE,_KERNEL_SUBSYSTEM,_UDEV_SYSNAME,_UDEV_DEVNODE,_UDEV_DEVLINK,SYSLOG_FACILITY,SYSLOG_IDENTIFIER,SYSLOG_PID
    </formatter>
    <formatter>
      tag "kubernetes.var.log.pods.**_eventrouter-** k8s-audit.log** openshift-audit.log** ovn-audit.log**"
      type k8s_json_file
      remove_keys stream
      process_kubernetes_events 'true'
    </formatter>
    <formatter>
      tag "kubernetes.var.log.pods**"
      type k8s_json_file
      remove_keys stream
    </formatter>
  </filter>

  # Generate elasticsearch id
  <filter **>
    @type elasticsearch_genid_ext
    hash_id_key viaq_msg_id
    alt_key kubernetes.event.metadata.uid
    alt_tags 'kubernetes.var.log.pods.**_eventrouter-*.** kubernetes.journal.container._default_.kubernetes-event'
  </filter>
⟦- range .routes⟧

  # ⟦if .label⟧Include⟦else⟧Discard⟦end⟧ ⟦.title⟧ logs
  <match ⟦.tags⟧>
⟦- with .label⟧
    @type relabel
    @label ⟦.⟧
⟦- else⟧
    @type null
⟦- end⟧
  </match>
⟦- end⟧

  # Send any remaining unmatched tags to stdout
  <match **>
    @type stdout
  </match>
</label>
"##

/-- The label of the records of one kind. -/
def sourceType : Template.Source := .braced "label_source_type" r##"# Routing ⟦.kind⟧ to pipelines
<label ⟦.id⟧>
  <filter **>
    @type record_modifier
    <record>
      log_type ⟦.kind⟧
    </record>
  </filter>

⟦with .router⟧⟦include "label_router" . | indent 2⟧⟦else⟧⟦include "fan" .fan | indent 2⟧⟦end⟧
</label>
"##

/-- A label that hands records on to several. -/
def fanLabel : Template.Source := .braced "label_fan" r##"# ⟦.desc⟧
<label ⟦.id⟧>
⟦include "fan" .fan | indent 2⟧
</label>
"##

/-- The label of a pipeline. -/
def pipeline : Template.Source := .braced "label_pipeline" r##"# Copying pipeline ⟦.name⟧ to outputs
<label ⟦.id⟧>
⟦- with .labels⟧
  # Add pipeline labels
  <filter **>
    @type record_transformer
    <record>
      openshift ⦃ "labels": ⟦.⟧ ⦄
    </record>
  </filter>
⟦- end⟧
⟦- if .parse_json⟧
  # Parse the logs into json
  <filter **>
    @type parser
    key_name message
    reserve_data yes
    hash_value_field structured
    emit_invalid_record_to_error false
    <parse>
      @type json
      json_parser oj
    </parse>
  </filter>
⟦- end⟧
⟦include "fan" .fan | indent 2⟧
</label>
"##

/-- A label that leads to a file of the old kind. -/
def legacy : Template.Source := .braced "label_legacy" r##"<label ⟦.id⟧>
  <match **>
    @type copy
    #include ⟦.desc⟧
    @include ⟦.include⟧
  </match>
</label>
"##

/-- Records handed on to one label or to several. -/
def fan : Template.Source := .braced "fan" r##"<match **>
⟦- if .stdout⟧
  @type stdout
⟦- end⟧
⟦- with .single⟧
  @type relabel
  @label ⟦.⟧
⟦- end⟧
⟦- with .copy⟧
  @type copy
⟦- if .deep⟧
  copy_mode deep
⟦- end⟧
⟦- range .targets⟧
  <store>
    @type relabel
    @label ⟦.⟧
  </store>
⟦- end⟧
⟦- end⟧
</match>"##

/-- Records handed on by namespace and pod label. -/
def router : Template.Source := .braced "label_router" r##"<match **>
  @type label_router
⟦- range .routes⟧
  <route>
    @label ⟦.label⟧
    <match>
⟦- with .namespaces⟧
      namespaces ⟦join ", " .⟧
⟦- end⟧
⟦- with .labels⟧
      labels ⟦join ", " .⟧
⟦- end⟧
    </match>
  </route>
⟦- end⟧
⟦- with .fallback⟧
  <route>
    @label ⟦.⟧
    <match>
    </match>
  </route>
⟦- end⟧
</match>"##

/-- What is done with records that cannot be sent yet. -/
def buffer : Template.Source := .braced "buffer" r##"<buffer⟦with .keys⟧ ⟦join ", " .⟧⟦end⟧>
  @type file
  path '/var/lib/fluentd/⟦.path⟧'
  flush_mode ⟦.flush_mode⟧
⟦- with .flush_interval⟧
  flush_interval ⟦.⟧
⟦- end⟧
  flush_thread_count ⟦.flush_thread_count⟧
  retry_type ⟦.retry_type⟧
  retry_wait ⟦.retry_wait⟧
  retry_max_interval ⟦.retry_max_interval⟧
  retry_timeout ⟦.retry_timeout⟧
  queued_chunks_limit_size ⟦.queued_chunks_limit_size⟧
  total_limit_size ⟦.total_limit_size⟧
  chunk_limit_size ⟦.chunk_limit_size⟧
  overflow_action ⟦.overflow_action⟧
  disable_chunk_backup true
</buffer>"##

/-- Settings of a store, one a line. -/
def settings : Template.Source := .braced "settings" r##"⟦range .⟧
⟦kv .key .value⟧⟦end⟧"##

/-- One of the two stores of an elasticsearch output. -/
def elasticsearchStore : Template.Source := .braced "es_store" r##"<match ⟦.tags⟧>
  @type elasticsearch
  @id ⟦.store_id⟧
  host ⟦.host⟧
  port ⟦.port⟧
⟦- include "settings" .settings | indent 2⟧
  target_index_key viaq_index_name
  id_key viaq_msg_id
  remove_keys viaq_index_name
⟦- if .suppress_type_name⟧
  suppress_type_name 'true'
⟦- else⟧
  verify_es_version_at_startup false
  type_name _doc
⟦- end⟧
⟦- with .retry_tag⟧
  retry_tag ⟦.⟧
⟦- end⟧
  http_backend typhoeus
  write_operation create
  reload_connections 'true'
  reload_after '200'
  sniffer_class_name 'Fluent::Plugin::ElasticsearchSimpleSniffer'
  reload_on_failure false
  # 2 ^ 31
  request_timeout 2147483648
⟦include "buffer" .buffer | indent 2⟧
</match>"##

/-- The label of an elasticsearch output. -/
def elasticsearch : Template.Source := .braced "label_elasticsearch" r##"# Ship logs to specific outputs
<label ⟦.id⟧>
  # Viaq Data Model
  <filter **>
    @type viaq_data_model
    enable_openshift_model false
    enable_prune_empty_fields false
    rename_time false
    undefined_dot_replace_char UNUSED
    elasticsearch_index_prefix_field 'viaq_index_name'
    <elasticsearch_index_name>
      enabled 'true'
      tag "⟦.infra_tags⟧"
      name_type static
      static_index_name infra-write
    </elasticsearch_index_name>
    <elasticsearch_index_name>
      enabled 'true'
      tag "⟦.audit_tags⟧"
      name_type static
      static_index_name audit-write
    </elasticsearch_index_name>
    <elasticsearch_index_name>
      enabled 'true'
      tag "**"
      name_type ⟦if .structured⟧structured⟦else⟧static⟦end⟧
      static_index_name app-write
⟦- with .structured_type_key⟧
      structured_type_key ⟦.⟧
⟦- end⟧
⟦- with .structured_type_name⟧
      structured_type_name ⟦.⟧
⟦- end⟧
    </elasticsearch_index_name>
  </filter>

  <filter **>
    @type viaq_data_model
    enable_prune_labels true
    enable_openshift_model false
    rename_time false
    undefined_dot_replace_char UNUSED
    prune_labels_exclusions app.kubernetes.io/name,app.kubernetes.io/instance,app.kubernetes.io/version,app.kubernetes.io/component,app.kubernetes.io/part-of,app.kubernetes.io/managed-by,app.kubernetes.io/created-by
  </filter>
⟦- if not .structured⟧

  #remove structured field if present
  <filter **>
    @type record_modifier
    char_encoding utf-8:utf-8
    remove_keys structured
  </filter>
⟦- end⟧

⟦include "es_store" .retry | indent 2⟧

⟦include "es_store" .main | indent 2⟧
</label>
"##

/-- The label of an output to another fluentd. -/
def forward : Template.Source := .braced "label_forward" r##"# Ship logs to specific outputs
<label ⟦.id⟧>
  <match **>
    @type forward
    @id ⟦.store_id⟧
⟦- with .shared_key⟧
    <security>
      self_hostname $⦃hostname⦄
      shared_key ⟦.⟧
    </security>
⟦- end⟧
    <server>
      host ⟦.host⟧
      port ⟦.port⟧
    </server>
    heartbeat_type none
    keepalive true
    keepalive_timeout 30s
⟦- include "settings" .settings | indent 4⟧
⟦include "buffer" .buffer | indent 4⟧
  </match>
</label>
"##

/-- The label of a syslog output. -/
def syslog : Template.Source := .braced "label_syslog" r##"# Ship logs to specific outputs
<label ⟦.id⟧>
  <filter **>
    @type parse_json_field
    json_fields  message
    merge_json_log false
    replace_json_log true
  </filter>
⟦- if .add_log_source⟧

  <filter **>
    @type record_modifier
    <record>
      kubernetes_info $⦃if record.has_key?('kubernetes'); record['kubernetes']; else ⦃⦄; end⦄
      namespace_info $⦃if record['kubernetes_info'] != nil && record['kubernetes_info'] != ⦃⦄; "namespace_name=" + record['kubernetes_info']['namespace_name']; else nil; end⦄
      pod_info $⦃if record['kubernetes_info'] != nil && record['kubernetes_info'] != ⦃⦄; "pod_name=" + record['kubernetes_info']['pod_name']; else nil; end⦄
      container_info $⦃if record['kubernetes_info'] != nil && record['kubernetes_info'] != ⦃⦄; "container_name=" + record['kubernetes_info']['container_name']; else nil; end⦄
      msg_key $⦃if record.has_key?('message') && record['message'] != nil; record['message']; else nil; end⦄
      msg_info $⦃if record['msg_key'] != nil && record['msg_key'].is_a?(Hash); require 'json'; "message="+record['message'].to_json; elsif record['msg_key'] != nil; "message="+record['message']; else nil; end⦄
      message $⦃if record['msg_key'] != nil && record['kubernetes_info'] != nil && record['kubernetes_info'] != ⦃⦄; record['namespace_info'] + ", " + record['container_info'] + ", " + record['pod_info'] + ", " + record['msg_info']; else record['message']; end⦄
    </record>
    remove_keys kubernetes_info,namespace_info,pod_info,container_info,msg_key,msg_info
  </filter>
⟦- end⟧

  <match **>
⟦- if .old_plugin⟧
    @type ⟦.old_plugin⟧
    @id ⟦.store_id⟧
    remote_syslog ⟦.host⟧
    port ⟦.port⟧
    hostname "#⦃ENV['NODE_NAME']⦄"
    facility ⟦.facility⟧
    severity ⟦.severity⟧
⟦- with .program⟧
    program ⟦.⟧
⟦- end⟧
⟦- else⟧
    @type remote_syslog
    @id ⟦.store_id⟧
    host ⟦.host⟧
    port ⟦.port⟧
    rfc ⟦.rfc⟧
    facility ⟦.facility⟧
    severity ⟦.severity⟧
⟦- with .appname⟧
    appname ⟦.⟧
⟦- end⟧
⟦- with .msgid⟧
    msgid ⟦.⟧
⟦- end⟧
⟦- with .procid⟧
    procid ⟦.⟧
⟦- end⟧
⟦- with .program⟧
    program ⟦.⟧
⟦- end⟧
    protocol ⟦.protocol⟧
    packet_size 4096
    hostname "#⦃ENV['NODE_NAME']⦄"
⟦- include "settings" .settings | indent 4⟧
⟦- if eq .protocol "tcp"⟧
    timeout 60
    timeout_exception true
    keep_alive true
    keep_alive_idle 75
    keep_alive_cnt 9
    keep_alive_intvl 7200
⟦- end⟧
    <format>
⟦- with .payload_key⟧
      @type single_json_value
      message_key ⟦.⟧
⟦- else⟧
      @type json
⟦- end⟧
    </format>
⟦include "buffer" .buffer | indent 4⟧
⟦- end⟧
  </match>
</label>
"##

/-- Label names without dots and slashes. -/
def dedot : Template.Source := .braced "dedot" r##"# dedot namespace_labels and rebuild message field if present
<filter **>
  @type record_modifier
  <record>
    _dummy_ $⦃if m=record.dig("kubernetes","namespace_labels");record["kubernetes"]["namespace_labels"]=⦃⦄.tap⦃|n|m.each⦃|k,v|n[k.gsub(/[.\/]/,'_')]=v⦄⦄;end⦄
    _dummy2_ $⦃if m=record.dig("kubernetes","labels");record["kubernetes"]["labels"]=⦃⦄.tap⦃|n|m.each⦃|k,v|n[k.gsub(/[.\/]/,'_')]=v⦄⦄;end⦄
  </record>
  remove_keys _dummy_, _dummy2_
</filter>"##

/-- The label of a kafka output. -/
def kafka : Template.Source := .braced "label_kafka" r##"# Ship logs to specific outputs
<label ⟦.id⟧>
⟦include "dedot" . | indent 2⟧

  <match **>
    @type kafka2
    @id ⟦.store_id⟧
    brokers ⟦join "," .brokers⟧
    default_topic ⟦.topic⟧
    use_event_time true
⟦- include "settings" .settings | indent 4⟧
    <format>
      @type json
    </format>
⟦include "buffer" .buffer | indent 4⟧
  </match>
</label>
"##

/-- The label of a loki output. -/
def loki : Template.Source := .braced "label_loki" r##"# Ship logs to specific outputs
<label ⟦.id⟧>
⟦include "dedot" . | indent 2⟧

  <filter **>
    @type record_modifier
    <record>
⟦- range .labels⟧
      _⟦.name⟧ ⟦.record⟧
⟦- end⟧
    </record>
  </filter>

  <match **>
    @type loki
    @id ⟦.store_id⟧
    line_format json
    url ⟦.url⟧
⟦- with .tenant⟧
    tenant ⟦.⟧
⟦- end⟧
⟦- include "settings" .settings | indent 4⟧
    <label>
⟦- range .labels⟧
      ⟦.name⟧ _⟦.name⟧
⟦- end⟧
    </label>
⟦include "buffer" .buffer | indent 4⟧
  </match>
</label>
"##

/-- The label of a cloudwatch output. -/
def cloudwatch : Template.Source := .braced "label_cloudwatch" r##"# Ship logs to specific outputs
<label ⟦.id⟧>
⟦- range .groups⟧
  <filter ⟦.tags⟧>
    @type record_modifier
    <record>
      cw_group_name ⟦.group⟧
      cw_stream_name ⟦.stream⟧
    </record>
  </filter>
⟦- end⟧

  <match **>
    @type cloudwatch_logs
    @id ⟦.store_id⟧
    auto_create_stream true
    region ⟦.region⟧
    log_group_name_key cw_group_name
    log_stream_name_key cw_stream_name
    remove_log_stream_name_key true
    remove_log_group_name_key true
    concurrency 2
⟦- include "settings" .settings | indent 4⟧
⟦- with .role_arn⟧
    <web_identity_credentials>
      role_arn "⟦.⟧"
      web_identity_token_file "⟦$.token_file⟧"
      role_session_name "cluster-logging"
    </web_identity_credentials>
⟦- end⟧
    include_time_key true
    log_rejected_request true
    <buffer>
      disable_chunk_backup true
    </buffer>
  </match>
</label>
"##

/-- The label of an http output. -/
def http : Template.Source := .braced "label_http" r##"# Ship logs to specific outputs
<label ⟦.id⟧>
  <match **>
    @type http
    @id ⟦.store_id⟧
    endpoint ⟦.url⟧
    http_method ⟦.method⟧
    content_type "application/x-ndjson"
    read_timeout ⟦.timeout⟧
⟦- with .headers⟧
    headers ⟦.⟧
⟦- end⟧
⟦- include "settings" .settings | indent 4⟧
⟦- with .auth⟧
    <auth>
      method basic
      username ⟦.username⟧
      password ⟦.password⟧
    </auth>
⟦- end⟧
⟦include "buffer" .buffer | indent 4⟧
  </match>
</label>
"##

/-- All templates. -/
def all : List Template.Source :=
  [header, metrics, container, journal, audit, concat, ingress, sourceType, fanLabel,
    pipeline, legacy, fan, router, buffer, settings, elasticsearchStore, elasticsearch,
    forward, syslog, dedot, kafka, loki, cloudwatch, http]

/-- The engine that renders the elements of the dialect. -/
def engine : Except Template.RegisterError Template.Engine :=
  Template.Engine.ofSources all

end LogForwarder.Fluentd.Templates
